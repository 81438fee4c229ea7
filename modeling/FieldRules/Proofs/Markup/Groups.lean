import FieldRules.Proofs.Markup.Segments

/-!
# Proofs — Groups

The tags of one field. Full or plain, they stand between a `div` and its end, with the control of
the field and an empty `span` for its error, and have no ids but those made from the name of the
field (`IsFieldGroup`). Either markup of a field is composed of such a group, as long as its rule
adds nothing to it.
-/

namespace FieldRules.Markup

/-! ## Groups of fields -/

/-- The tag is the one that is to show the errors of a field. -/
structure IsPlaceholder (name : String) (span : Segment) : Prop where
  tagName : span.tagName = "span"
  id : span.id? = some ("error-" ++ name)
  errorFor : span.value? "data-error-for" = some name

/-- The ids of a field in their order: those of its control, of its hint if it has one, and of the
place for its error. -/
inductive FieldIds (name : String) : List String → Prop
  | plain : FieldIds name [name, "error-" ++ name]
  | hinted : FieldIds name [name, "hint-" ++ name, "error-" ++ name]

/-- The tags of one field: from a `div` to its end, with the control of the field and an empty place
for its error, and with no other ids than those of the field. -/
structure IsFieldGroup (name : String) (group : List Segment) : Prop where
  framed : ∃ first inner last, group = first :: (inner ++ [last]) ∧ first.tagName = "div" ∧
    last.tagName = "/div" ∧ ∀ seg ∈ inner, seg.tagName ≠ "div" ∧ seg.tagName ≠ "/div"
  control : ∃ seg ∈ group, seg.tagName ∈ controlNames ∧ seg.value? "name" = some name
  placeholder : ∃ first before span after,
    group = first :: (before ++ span :: closing .null "span" :: after) ∧ IsPlaceholder name span
  ids : FieldIds name (group.filterMap Segment.id?)
  errors : group.filterMap (Segment.value? "data-error-for") = [name]

/-- The markup is composed of the tags of a field. -/
def IsFieldMarkup (name markup : String) : Prop :=
  ∃ group, Composed markup group ∧ IsFieldGroup name group

variable {name key : String} {segs : List Segment} {span : Segment} {names : List String}

/-- Line breaks before a group do not matter. -/
theorem IsFieldGroup.leading {group : List Segment} (h : IsFieldGroup name group)
    (lead : String) : IsFieldGroup name (leading lead group) := by
  obtain ⟨first, inner, last, rfl, hfirst, hlast, hinner⟩ := h.framed
  constructor
  case framed => exact ⟨_, inner, last, rfl, hfirst, hlast, hinner⟩
  case control =>
    obtain ⟨seg, hseg, hcontrol⟩ := h.control
    rcases List.mem_cons.mp hseg with rfl | hseg
    · exact ⟨_, List.mem_cons_self, hcontrol⟩
    · exact ⟨seg, List.mem_cons_of_mem _ hseg, hcontrol⟩
  case placeholder =>
    obtain ⟨head, before, span, after, hgroup, hspan⟩ := h.placeholder
    rw [hgroup]
    exact ⟨_, before, span, after, rfl, hspan⟩
  case ids => exact h.ids
  case errors => exact h.errors

/-! ## Groups from their parts -/

theorem filterMap_partLines (parts : List (List Segment)) (key : String) :
    (partLines parts).filterMap (Segment.value? key) =
      parts.flatten.filterMap (Segment.value? key) := by
  have hvalues (segs : List Segment) : segs.filterMap (Segment.value? key) =
      (segs.map (Segment.value? key)).filterMap id := by
    rw [List.filterMap_map]
    rfl
  rw [hvalues, hvalues, map_eq_of_inside (fun _ => rfl) (inside_partLines parts)]

theorem filterMap_framed {first : Segment} {parts : List (List Segment)}
    (hfirst : first.value? key = none) :
    (framed first parts).filterMap (Segment.value? key) =
      parts.flatten.filterMap (Segment.value? key) := by
  have hend : Segment.value? key ⟨"\n".toList ++ (closing .null "div").text,
      (closing .null "div").inside⟩ = none := value?_closing (by decide) _
  have hlast : (leading "\n" [closing .null "div"]).filterMap (Segment.value? key) = [] := by
    rw [leading, List.filterMap_cons_none hend]
    rfl
  rw [framed_eq, List.filterMap_cons_none hfirst, List.filterMap_append, hlast, List.append_nil,
    filterMap_partLines]

/-- A group is that of a field if its parts are. -/
theorem isFieldGroup_framed {first : Segment} {parts : List (List Segment)}
    (hfirst : first.tagName = "div") (hfirstId : first.id? = none)
    (hfirstError : first.value? "data-error-for" = none)
    (hnames : ∀ seg ∈ parts.flatten, seg.tagName ≠ "div" ∧ seg.tagName ≠ "/div")
    (hcontrol : ∃ seg ∈ parts.flatten, seg.tagName ∈ controlNames ∧ seg.value? "name" = some name)
    (hspan : [span, closing .null "span"] ∈ parts) (htag : IsPlaceholder name span)
    (hids : FieldIds name (parts.flatten.filterMap Segment.id?))
    (herrors : parts.flatten.filterMap (Segment.value? "data-error-for") = [name]) :
    IsFieldGroup name (framed first parts) := by
  have hlines := inside_partLines parts
  constructor
  case framed =>
    exact ⟨first, partLines parts, _, framed_eq first parts, hfirst, tagName_closing (by decide) _,
      (forall_of_inside (P := fun inside => Segment.tagName ⟨[], inside⟩ ≠ "div" ∧
        Segment.tagName ⟨[], inside⟩ ≠ "/div") hlines).mpr hnames⟩
  case control =>
    obtain ⟨seg, hseg, hcontrol⟩ :=
      (exists_of_inside (P := fun inside => Segment.tagName ⟨[], inside⟩ ∈ controlNames ∧
        Segment.value? "name" ⟨[], inside⟩ = some name) hlines).mpr hcontrol
    refine ⟨seg, ?_, hcontrol⟩
    rw [framed_eq]
    exact List.mem_cons_of_mem _ (List.mem_append_left _ hseg)
  case placeholder =>
    obtain ⟨fronts, backs, rfl⟩ := List.append_of_mem hspan
    refine ⟨first, partLines fronts, ⟨"\n".toList ++ ("  ".toList ++ span.text), span.inside⟩,
      partLines backs ++ leading "\n" [closing .null "div"], ?_, htag.tagName, htag.id,
      htag.errorFor⟩
    rw [framed_eq]
    simp [partLines, leading]
  case ids =>
    have hread : (framed first parts).filterMap (Segment.value? "id") = _ :=
      filterMap_framed hfirstId
    exact hread ▸ hids
  case errors => rw [filterMap_framed hfirstError, herrors]

/-! ## Full markup -/

variable {view : FieldView} {rest : List Segment} {control : Segment}

/-- What a reader finds in the parts of a field. -/
theorem filterMap_partSegments (hkey : key ∉ ["for", "class", "value", "selected"])
    (hrest : ∀ seg ∈ rest, IsChoicePart seg.inside) :
    (partSegments view (control :: rest)).flatten.filterMap (Segment.value? key) =
      (control.value? key).toList ++
        ((if view.hint.truthy then
            (Segment.value? key (opening "small" (hintAttributes view))).toList else []) ++
          (Segment.value? key (opening "span" (errorAttributes view))).toList) := by
  have hsubset {names : List String} (hnames : names ⊆ ["for", "class", "value", "selected"]) :
      key ∉ names := fun hmem => hkey (hnames hmem)
  have hlabel : Segment.value? key (opening "label" (labelAttributes view)) = none :=
    value?_opening_of_not_mem (by decide) (keyedBy_labelAttributes view) (by decide) (by decide)
      (hsubset (by decide)) []
  have hclosing (content : Value) (name : String) (hname : IsName name) :
      Segment.value? key (closing content name) = none := value?_closing hname _
  have hrestNone : rest.filterMap (Segment.value? key) = [] :=
    List.filterMap_eq_nil_iff.mpr fun seg hseg => (hrest seg hseg).value? (hsubset (by decide)) _
  have hlabelEnd := hclosing view.label "label" (by decide)
  have hsmallEnd := hclosing view.hint "small" (by decide)
  have hspanEnd := hclosing .null "span" (by decide)
  have hcons (seg : Segment) (segs : List Segment) :
      (seg :: segs).filterMap (Segment.value? key) =
        (seg.value? key).toList ++ segs.filterMap (Segment.value? key) := by
    rw [List.filterMap_cons]
    cases seg.value? key <;> rfl
  unfold partSegments
  by_cases hfloating : view.isFloating = true <;> by_cases hhint : view.hint.truthy = true <;>
    simp [hfloating, hhint, hcons, hlabel, hlabelEnd, hsmallEnd, hspanEnd, hrestNone]

/-- None of the parts of a field opens or closes a group. -/
theorem tagName_partSegments (hcontrol : control.tagName ∈ controlNames)
    (hrest : ∀ seg ∈ rest, IsChoicePart seg.inside) :
    ∀ seg ∈ (partSegments view (control :: rest)).flatten,
      seg.tagName ≠ "div" ∧ seg.tagName ≠ "/div" := by
  have hopening (name : String) (hname : IsName name) (hne : name ≠ "div" ∧ name ≠ "/div")
      (attrs : Dict) :
      (opening name attrs).tagName ≠ "div" ∧ (opening name attrs).tagName ≠ "/div" :=
    (tagName_opening hname attrs []).symm ▸ hne
  have hclosing (name : String) (hname : IsName name)
      (hne : "/" ++ name ≠ "div" ∧ "/" ++ name ≠ "/div") (content : Value) :
      (closing content name).tagName ≠ "div" ∧ (closing content name).tagName ≠ "/div" := by
    rwa [closing, tagName_closing hname]
  have hlabel := hopening "label" (by decide) (by decide) (labelAttributes view)
  have hsmall := hopening "small" (by decide) (by decide) (hintAttributes view)
  have hspan := hopening "span" (by decide) (by decide) (errorAttributes view)
  have hlabelEnd := hclosing "label" (by decide) (by decide) view.label
  have hsmallEnd := hclosing "small" (by decide) (by decide) view.hint
  have hspanEnd := hclosing "span" (by decide) (by decide) .null
  have hkinds : ∀ n ∈ controlNames, n ≠ "div" ∧ n ≠ "/div" := by decide
  have hchoices : ∀ n ∈ ["option", "/option", "/select", "/textarea"], n ≠ "div" ∧ n ≠ "/div" := by
    decide
  have hfirst := hkinds _ hcontrol
  have hothers : ∀ seg ∈ rest, seg.tagName ≠ "div" ∧ seg.tagName ≠ "/div" :=
    fun seg hseg => hchoices _ ((hrest seg hseg).tagName_mem seg.text)
  unfold partSegments
  by_cases hfloating : view.isFloating = true <;> by_cases hhint : view.hint.truthy = true <;>
    simpa [hfloating, hhint, or_imp, forall_and, hlabel, hsmall, hspan, hlabelEnd, hsmallEnd,
      hspanEnd, hfirst] using forall₂_and.mp hothers

/-- The tag is the control of a field, with the name of the field as its id. -/
structure IsFieldControl (name : String) (control : Segment) : Prop where
  kind : control.tagName ∈ controlNames
  id : control.id? = some name
  name : control.value? "name" = some name
  errorFor : control.value? "data-error-for" = none

theorem isPlaceholder_opening {attrs : Dict}
    (hattrs : KeyedBy attrs ["class", "id", "data-error-for"])
    (hid : attrs.get? "id" = some (.text ("error-" ++ name)))
    (herror : attrs.get? "data-error-for" = some (.text name)) :
    IsPlaceholder name (opening "span" attrs) := by
  have hread (key : String) : Segment.value? key (opening "span" attrs) =
      ((attrs.get? key).bind carriedValue?).join :=
    value?_opening (by decide) hattrs (by decide) (by decide) []
  refine ⟨tagName_opening (by decide) _ _, ?_, ?_⟩
  · rw [id?_eq_value?, hread, hid]
    rfl
  · rw [hread, herror]
    rfl

/-- The tags of a view are those of a field if its control is. -/
theorem isFieldGroup_groupSegments (hcontrol : IsFieldControl view.name control)
    (hrest : ∀ seg ∈ rest, IsChoicePart seg.inside) :
    IsFieldGroup view.name (groupSegments view (control :: rest)) := by
  have hspan : IsPlaceholder view.name (opening "span" (errorAttributes view)) :=
    isPlaceholder_opening (keyedBy_errorAttributes view)
      (by simp [errorAttributes, Dict.get?_cons, FieldView.errorId])
      (by simp [errorAttributes, Dict.get?_cons])
  have hhint (key : String) : Segment.value? key (opening "small" (hintAttributes view)) =
      (((hintAttributes view).get? key).bind carriedValue?).join :=
    value?_opening (by decide) (keyedBy_hintAttributes view) (by decide) (by decide) []
  have hdiv (key : String) (hkey : key ∉ ["class", "data-field"]) :
      Segment.value? key (opening "div" (groupAttributes view)) = none :=
    value?_opening_of_not_mem (by decide) (keyedBy_groupAttributes view) (by decide) (by decide)
      hkey []
  refine isFieldGroup_framed (tagName_opening (by decide) _ _) (hdiv _ (by decide))
    (hdiv _ (by decide)) (tagName_partSegments hcontrol.kind hrest) ?_ ?_ hspan ?_ ?_
  · refine ⟨control, ?_, hcontrol.kind, hcontrol.name⟩
    unfold partSegments
    by_cases hfloating : view.isFloating = true <;> simp [hfloating]
  · simp [partSegments]
  · have hids : (partSegments view (control :: rest)).flatten.filterMap (Segment.value? "id") = _ :=
      filterMap_partSegments (by decide) hrest
    have hcontrolId : control.value? "id" = some view.name := hcontrol.id
    have hspanId : Segment.value? "id" (opening "span" (errorAttributes view)) =
        some ("error-" ++ view.name) := hspan.id
    show FieldIds view.name
      ((partSegments view (control :: rest)).flatten.filterMap (Segment.value? "id"))
    rw [hids, hcontrolId, hspanId, hhint]
    split
    · exact .hinted
    · exact .plain
  · rw [filterMap_partSegments (by decide) hrest, hcontrol.errorFor, hspan.errorFor, hhint]
    simp [hintAttributes, Dict.get?_cons]

/-- **A field that is rendered is a group of its own**, if it has no attributes of its own. -/
theorem isFieldMarkup_renderField {kit : Toolkit} {o : RenderOptions} {r : Rule} {markup : String}
    (hkit : kit.controls = .standard) (hoverride : r.renderOverride? = none)
    (hr : r.HasNoAttributes) (hid : r.id = none) (h : renderField kit name r o = .ok markup) :
    IsFieldMarkup name markup := by
  obtain ⟨view, placeholder, className, tag, dropped, rest, rfl, hattrs, hcomposed, htag, hdropped,
    hrest⟩ := composed_renderField hkit hoverride h
  have hisName : IsName tag := isName_of_mem_controlNames htag
  have hkept : ∀ ns ∈ [[], areaDropped, selectionDropped], "id" ∉ ns ∧ "name" ∉ ns := by decide
  have hkeyed : KeyedBy (view.attrs.without dropped) inputNames :=
    hattrs ▸ (List.filter_sublist.map _).trans (keyedBy_controlAttributes hr)
  have hvalue (key : String) (hkey : key ∉ dropped) :
      Segment.value? key (opening tag (view.attrs.without dropped)) =
        ((view.attrs.get? key).bind carriedValue?).join := by
    rw [← if_neg hkey (t := none) (e := view.attrs.get? key), ← Dict.get?_without]
    exact value?_opening hisName hkeyed (by decide) (by decide) []
  have hcontrol : IsFieldControl view.name (opening tag (view.attrs.without dropped)) := by
    constructor
    case kind => exact (tagName_opening hisName _ []).symm ▸ htag
    case id =>
      rw [id?_eq_value?, hvalue "id" (hkept dropped hdropped).1, hattrs,
        controlAttributes_of_hasNoAttributes hr]
      simp [ownAttributes, Dict.get?_cons, hid, givenOr, carriedValue?]
    case name =>
      rw [hvalue "name" (hkept dropped hdropped).2, hattrs,
        controlAttributes_of_hasNoAttributes hr]
      simp [ownAttributes, Dict.get?_cons, carriedValue?]
    case errorFor =>
      exact value?_opening_of_not_mem hisName hkeyed (by decide) (by decide)
        (by decide) []
  exact ⟨_, hcomposed, isFieldGroup_groupSegments hcontrol hrest⟩

/-! ## Plain markup -/

/-- A tag in which something is written after its name. -/
theorem tag_of_written {attrs : Dict} (hkeys : attrs.map (·.1) = names.map .text)
    (hplain : ∀ n ∈ names, IsPlainName n) (hnames : names.Nodup) (key : String)
    {value : Option String} (hvalue : (attrs.get? key).bind carriedValue? = some value)
    (tagged : String) :
    tag tagged attrs = "<" ++ tagged ++ " " ++ attributes attrs ++ ">" := by
  have hkeyed : KeyedBy attrs names := by rw [KeyedBy, hkeys]
  have hne : (attributes attrs).isEmpty = false := by
    rw [Bool.eq_false_iff]
    intro hempty
    have hread := readAttributes_attributes (hasPlainNames_of_keyedBy hkeyed hplain)
    have hlookup := lookup_carried hkeys hnames key
    rw [String.isEmpty_iff.mp hempty] at hread
    rw [← Option.some.inj hread, hvalue] at hlookup
    cases hlookup
  rw [tag, hne]
  rfl

namespace Plain

variable {r : Rule} {o : RenderOptions}

def groupAttributes (o : RenderOptions) : Dict :=
  [(.text "class", textOrNull o.classes.fieldGroup)]

def labelAttributes (name : String) : Dict :=
  [(.text "for", .text name)]

def errorAttributes (name : String) (o : RenderOptions) : Dict :=
  [(.text "class", textOrNull o.classes.error), (.text "id", .text ("error-" ++ name)),
    (.text "data-error-for", .text name)]

def partSegments (name : String) (r : Rule) (o : RenderOptions) : List (List Segment) :=
  [[opening "label" (labelAttributes name), closing (labelOf name r) "label"],
    [opening "input" (inputAttributes name r)],
    [opening "span" (errorAttributes name o), closing .null "span"]]

theorem keyedBy_groupAttributes (o : RenderOptions) :
    KeyedBy (groupAttributes o) ["class"] := List.Sublist.refl _

theorem keyedBy_labelAttributes (name : String) :
    KeyedBy (labelAttributes name) ["for"] := List.Sublist.refl _

theorem keyedBy_inputAttributes (name : String) (r : Rule) :
    KeyedBy (inputAttributes name r)
      ["type", "name", "id", "required", "minlength", "maxlength"] := List.Sublist.refl _

theorem keyedBy_errorAttributes (name : String) (o : RenderOptions) :
    KeyedBy (errorAttributes name o) ["class", "id", "data-error-for"] := List.Sublist.refl _

theorem label_line (name : String) (label : Value) :
    "  <label for=\"" ++ escapeString name ++ "\">" ++ escape label ++ "</label>" =
      "  " ++ element "label" (labelAttributes name) label := by
  have hfor : escape (.text "for") = "for" := by decide
  have hname : escape (.text name) = escapeString name := rfl
  have hattributes : attributes (labelAttributes name) = "for=\"" ++ escapeString name ++ "\"" := by
    simp [attributes, labelAttributes, attribute?, hfor, hname]
  have hkeys : (labelAttributes name).map (·.1) = ["for"].map .text := rfl
  have htag := tag_of_written hkeys (by decide) (by decide) "for" rfl "label"
  rw [element, htag, hattributes]
  apply String.toList_inj.mp
  simp

theorem input_line (name : String) (r : Rule) :
    "  <input " ++ attributes (inputAttributes name r) ++ ">" =
      "  " ++ tag "input" (inputAttributes name r) := by
  have hkeys : (inputAttributes name r).map (·.1) =
      ["type", "name", "id", "required", "minlength", "maxlength"].map .text := rfl
  have htag := tag_of_written hkeys (by decide) (by decide) "name" rfl "input"
  rw [htag]
  apply String.toList_inj.mp
  simp

theorem error_line (name : String) (o : RenderOptions) :
    "  <span " ++ attributes (errorAttributes name o) ++ "></span>" =
      "  " ++ (tag "span" (errorAttributes name o) ++ "</span>") := by
  have hkeys : (errorAttributes name o).map (·.1) =
      ["class", "id", "data-error-for"].map .text := rfl
  have htag := tag_of_written hkeys (by decide) (by decide) "data-error-for" rfl "span"
  rw [htag]
  apply String.toList_inj.mp
  simp

/-- A field is the lines of its parts between those that open and close its group. -/
theorem renderField_lines (name : String) (r : Rule) (o : RenderOptions) :
    renderField name r o = Text.joinWith "\n"
      ([tag "div" (groupAttributes o)] ++
        [element "label" (labelAttributes name) (labelOf name r),
          tag "input" (inputAttributes name r),
          tag "span" (errorAttributes name o) ++ "</span>"].map ("  " ++ ·) ++ ["</div>"]) := by
  have herror := error_line name o
  rw [errorAttributes] at herror
  rw [renderField, label_line, input_line, herror]
  rfl

theorem composed_renderField (name : String) (r : Rule) (o : RenderOptions) :
    Composed (renderField name r o)
      (framed (opening "div" (groupAttributes o)) (partSegments name r o)) := by
  have hspan := (composed_tag (by decide : IsName "span") (errorAttributes name o)).append
    (composed_end (by decide : "</span>" = "</" ++ "span" ++ ">") (by decide))
  rw [renderField_lines]
  exact composed_framed (composed_tag (by decide) _)
    (.cons (composed_element (by decide) _ _) (.cons (composed_tag (by decide) _)
      (.cons hspan .nil)))

/-- What a reader finds in the parts of a plain field. -/
theorem filterMap_partSegments (hkey : key ∉ ["for", "class"]) :
    (partSegments name r o).flatten.filterMap (Segment.value? key) =
      (Segment.value? key (opening "input" (inputAttributes name r))).toList ++
        (Segment.value? key (opening "span" (errorAttributes name o))).toList := by
  have hlabel : Segment.value? key (opening "label" (labelAttributes name)) = none :=
    value?_opening_of_not_mem (by decide) (keyedBy_labelAttributes name) (by decide) (by decide)
      (fun hmem => hkey (List.mem_append_left _ hmem)) []
  have hlabelEnd : Segment.value? key (closing (labelOf name r) "label") = none :=
    value?_closing (by decide) _
  have hspanEnd : Segment.value? key (closing .null "span") = none := value?_closing (by decide) _
  cases hinput : Segment.value? key (opening "input" (inputAttributes name r)) <;>
    cases hspan : Segment.value? key (opening "span" (errorAttributes name o)) <;>
    simp [partSegments, hlabel, hlabelEnd, hspanEnd, hinput, hspan]

/-- **A plain field is a group of its own.** -/
theorem isFieldMarkup_renderField (name : String) (r : Rule) (o : RenderOptions) :
    IsFieldMarkup name (renderField name r o) := by
  have hinput (key : String) : Segment.value? key (opening "input" (inputAttributes name r)) =
      (((inputAttributes name r).get? key).bind carriedValue?).join :=
    value?_opening (by decide) (keyedBy_inputAttributes name r) (by decide) (by decide) []
  have hkind : (opening "input" (inputAttributes name r)).tagName = "input" :=
    tagName_opening (by decide) _ _
  have hcontrol : IsFieldControl name (opening "input" (inputAttributes name r)) := by
    constructor
    case kind =>
      rw [hkind]
      decide
    case id =>
      rw [id?_eq_value?, hinput]
      simp [inputAttributes, Dict.get?_cons, carriedValue?]
    case name =>
      rw [hinput]
      simp [inputAttributes, Dict.get?_cons, carriedValue?]
    case errorFor =>
      rw [hinput]
      simp [inputAttributes, Dict.get?_cons]
  have hspan : IsPlaceholder name (opening "span" (errorAttributes name o)) :=
    isPlaceholder_opening (keyedBy_errorAttributes name o)
      (by simp [errorAttributes, Dict.get?_cons]) (by simp [errorAttributes, Dict.get?_cons])
  have hdiv (key : String) (hkey : key ∉ ["class"]) :
      Segment.value? key (opening "div" (groupAttributes o)) = none :=
    value?_opening_of_not_mem (by decide) (keyedBy_groupAttributes o) (by decide) (by decide)
      hkey []
  refine ⟨_, composed_renderField name r o, isFieldGroup_framed (tagName_opening (by decide) _ _)
    (hdiv _ (by decide)) (hdiv _ (by decide)) ?_ ?_ ?_ hspan ?_ ?_⟩
  · have hkinds : ∀ n ∈ ["label", "/label", "input", "span", "/span"],
        n ≠ "div" ∧ n ≠ "/div" := by decide
    have htags : (partSegments name r o).flatten.map Segment.tagName =
        ["label", "/label", "input", "span", "/span"] := by
      have hlabel : (opening "label" (labelAttributes name)).tagName = "label" :=
        tagName_opening (by decide) _ _
      have hspan : (opening "span" (errorAttributes name o)).tagName = "span" :=
        tagName_opening (by decide) _ _
      have hlabelEnd : (closing (labelOf name r) "label").tagName = "/label" :=
        tagName_closing (by decide) _
      have hspanEnd : (closing .null "span").tagName = "/span" := tagName_closing (by decide) _
      simp [partSegments, hlabel, hlabelEnd, hkind, hspan, hspanEnd]
    exact fun seg hseg => hkinds _ (htags ▸ List.mem_map_of_mem hseg)
  · exact ⟨opening "input" (inputAttributes name r), by simp [partSegments], hcontrol.kind,
      hcontrol.name⟩
  · simp [partSegments]
  · have hids : (partSegments name r o).flatten.filterMap (Segment.value? "id") = _ :=
      filterMap_partSegments (by decide)
    rw [← id?_eq_value?, ← id?_eq_value?, hcontrol.id, hspan.id] at hids
    exact hids ▸ .plain
  · rw [filterMap_partSegments (by decide), hcontrol.errorFor, hspan.errorFor]
    rfl

end Plain

end FieldRules.Markup
