import FieldRules.Proofs.Markup.Groups

/-!
# Proofs — Tags

Reading a form back. A reader takes the markup apart into tags with their attributes, opens a field
at each `div`, and looks for the control before the group ends (`fields?`). Of a form that is
rendered with the built-in controls it reads the fields that were rendered, in their order, and
whether each of them is required (`fields?_formMarkup`).
-/

namespace FieldRules.Markup

/-! ## Tags -/

/-- A tag as it is read: its name, and its attributes if they can be read. -/
structure Tag where
  name : String
  attrs : Option (Named (Option String))

/-- The tag of a segment. -/
def Segment.read (seg : Segment) : Tag :=
  ⟨seg.item.tag, seg.attributes?⟩

/-- The tags of a markup, in their order. -/
def tags? (markup : String) : Option (List Tag) :=
  (scan markup).map fun segs => segs.map Segment.read

/-- What an attribute of a tag is read as, if it is there. -/
def Tag.attr? (t : Tag) (name : String) : Option (Option String) :=
  t.attrs.bind (·.lookup name)

/-- The markup consists of these tags, whatever stands before each of them. -/
def Tagged (markup : String) (tags : List Tag) : Prop :=
  tags ≠ [] ∧ ∃ segs, markup.toList = written segs ∧
    (∀ seg ∈ segs, Bare seg.text ∧ Bare seg.inside) ∧ segs.map Segment.read = tags

variable {markup : String} {tags : List Tag}

/-- What is composed of segments consists of their tags. -/
theorem Composed.tagged {segs : List Segment} (h : Composed markup segs) :
    Tagged markup (segs.map Segment.read) :=
  ⟨by simpa using h.nonempty, segs, h.toList, h.bare, rfl⟩

theorem Tagged.tags? (h : Tagged markup tags) : tags? markup = some tags := by
  obtain ⟨-, segs, hmarkup, hsegs, rfl⟩ := h
  rw [Markup.tags?, scan_written hmarkup hsegs]
  rfl

/-- Lines of tags are tags, one line after the other. -/
theorem read_layered (segss : List (List Segment)) :
    (layered segss).map Segment.read = (segss.map (·.map Segment.read)).flatten := by
  have hinside : (layered segss).map Segment.inside = segss.flatten.map Segment.inside := by
    rw [inside_layered, List.map_flatten, List.flatMap_def]
  rw [map_eq_of_inside (fun _ => rfl) hinside, List.map_flatten]

theorem tag_opening {name : String} (hname : IsName name) (attrs : Dict) :
    (opening name attrs).read = ⟨name, readAttributes (attributes attrs)⟩ := by
  have hread := read_opening hname attrs []
  exact congrArg₂ Tag.mk (congrArg Item.tag hread.1) hread.2

/-! ## Fields -/

/-- The controls that are built in. -/
def Tag.isControl (t : Tag) : Bool :=
  ["input", "textarea", "select"].contains t.name

/-- A field as it is read: its name, and its control. -/
structure ShownField where
  name : Option String
  control : Option Tag

/-- The control says that the field is required. -/
def ShownField.isRequired (shown : ShownField) : Bool :=
  shown.control.any fun t => (t.attr? "required").isSome

/-- The fields of a form: each begins with a `div`, and has its control before the next `/div`. -/
def fieldsOf : List Tag → List ShownField
  | [] => []
  | t :: rest =>
    if t.name = "div" then
      ⟨(t.attr? "data-field").join, (rest.takeWhile (·.name ≠ "/div")).find? Tag.isControl⟩ ::
        fieldsOf rest
    else fieldsOf rest

/-- The fields of a form in their order, as a reader of the markup finds them. -/
def fields? (markup : String) : Option (List ShownField) :=
  (tags? markup).map fieldsOf

/-- The tags neither open nor close a group. -/
def IsInner (tags : List Tag) : Prop :=
  ∀ t ∈ tags, t.name ≠ "div" ∧ t.name ≠ "/div"

/-- The tags are those of one group, and a reader finds this field in it. -/
inductive IsGroup : List Tag → ShownField → Prop
  | mk {first : Tag} {inner : List Tag} {last : Tag} (hfirst : first.name = "div")
      (hinner : IsInner inner) (hlast : last.name = "/div") :
      IsGroup (first :: (inner ++ [last]))
        ⟨(first.attr? "data-field").join, inner.find? Tag.isControl⟩

theorem fieldsOf_inner (h : ∀ t ∈ tags, t.name ≠ "div") (rest : List Tag) :
    fieldsOf (tags ++ rest) = fieldsOf rest := by
  induction tags with
  | nil => rfl
  | cons t tags ih =>
      obtain ⟨ht, htags⟩ := List.forall_mem_cons.mp h
      rw [List.cons_append, fieldsOf, if_neg ht, ih htags]

/-- A group is read as its field. -/
theorem IsGroup.fieldsOf {shown : ShownField} (h : IsGroup tags shown) (rest : List Tag) :
    fieldsOf (tags ++ rest) = shown :: fieldsOf rest := by
  obtain @⟨first, inner, last, hfirst, hinner, hlast⟩ := h
  have hbefore : ∀ t ∈ inner ++ [last], t.name ≠ "div" := by
    intro t ht
    rcases List.mem_append.mp ht with ht | ht
    · exact (hinner t ht).1
    · rw [List.mem_singleton.mp ht, hlast]
      decide
  have htake : ((inner ++ [last]) ++ rest).takeWhile (·.name ≠ "/div") = inner := by
    rw [List.append_assoc,
      List.takeWhile_append_of_pos fun t ht => by simpa using (hinner t ht).2]
    simp [hlast]
  rw [List.cons_append, Markup.fieldsOf, if_pos hfirst, htake, fieldsOf_inner hbefore]

/-- **Groups are read as their fields**, in their order. -/
theorem fieldsOf_groups {groups : List (List Tag)} {shown : List ShownField}
    (h : List.Forall₂ IsGroup groups shown) (rest : List Tag) :
    fieldsOf (groups.flatten ++ rest) = shown ++ fieldsOf rest := by
  induction h with
  | nil => rfl
  | cons hfirst _ ih =>
      rw [List.flatten_cons, List.append_assoc, hfirst.fieldsOf, ih, List.cons_append]

/-- What stands around the groups is not read. -/
theorem fieldsOf_between {before after : List Tag} {groups : List (List Tag)}
    {shown : List ShownField} (hbefore : ∀ t ∈ before, t.name ≠ "div")
    (h : List.Forall₂ IsGroup groups shown) (hafter : ∀ t ∈ after, t.name ≠ "div") :
    fieldsOf (before ++ (groups.flatten ++ after)) = shown := by
  have hend := fieldsOf_inner hafter []
  rw [List.append_nil] at hend
  rw [fieldsOf_inner hbefore, fieldsOf_groups h, hend, fieldsOf, List.append_nil]

/-! ## Groups -/

/-- The tags of a group are read as one field, with the control of the group. -/
theorem isGroup_groupSegments {view : FieldView} {control : Segment} {rest : List Segment}
    (hcontrol : control.tagName ∈ controlNames) (hrest : ∀ seg ∈ rest, IsChoicePart seg.inside) :
    IsGroup ((groupSegments view (control :: rest)).map Segment.read)
      ⟨some view.name, some control.read⟩ := by
  have hkeys : (groupAttributes view).map (·.1) = ["class", "data-field"].map .text := rfl
  have hattributes := readAttributes_attributes
    (hasPlainNames_of_keyedBy (keyedBy_groupAttributes view) (by decide))
  have hlookup := lookup_carried hkeys (by decide) "data-field"
  have hname : (Tag.attr? (opening "div" (groupAttributes view)).read "data-field").join =
      some view.name := by
    rw [tag_opening (by decide), Tag.attr?, hattributes, Option.bind_some, hlookup]
    rfl
  have hinner : IsInner ((partSegments view (control :: rest)).flatten.map Segment.read) := by
    intro t ht
    obtain ⟨seg, hseg, rfl⟩ := List.mem_map.mp ht
    exact tagName_partSegments hcontrol hrest seg hseg
  have hfind : ((partSegments view (control :: rest)).flatten.map Segment.read).find?
      Tag.isControl = some control.read := by
    have hfirst : control.read.isControl = true := List.contains_iff_mem.mpr hcontrol
    have hlabel : (opening "label" (labelAttributes view)).read.isControl = false := by
      rw [tag_opening (by decide)]
      rfl
    have hlabelEnd : (closing view.label "label").read.isControl = false := by
      have hend : (closing view.label "label").read.name = "/label" := tagName_closing (by decide) _
      rw [Tag.isControl, hend]
      decide
    unfold partSegments
    by_cases hfloating : view.isFloating = true <;>
      simp [hfloating, hfirst, hlabel, hlabelEnd]
  have hlines : (partLines (partSegments view (control :: rest))).map Segment.read =
      (partSegments view (control :: rest)).flatten.map Segment.read :=
    map_eq_of_inside (fun _ => rfl) (inside_partLines _)
  have hgroup : IsGroup ((opening "div" (groupAttributes view)).read ::
      ((partSegments view (control :: rest)).flatten.map Segment.read ++
        [(closing .null "div").read])) _ :=
    .mk (tagName_opening (by decide) _ []) hinner (tagName_closing (by decide) _)
  rw [hname, hfind] at hgroup
  rw [groupSegments, framed_eq, List.map_cons, List.map_append, hlines]
  exact hgroup

/-! ## Fields of a form -/

/-- The field is read under its name, and as required if its rule asks for that, unless attributes
of its own may say otherwise. -/
structure Shows (e : String × Rule) (shown : ShownField) : Prop where
  name : shown.name = some e.1
  required : e.2.HasNoAttributes → shown.isRequired = e.2.required

/-- A control without attributes of its own says whether the field is required. -/
theorem attr?_required {name control : String} {r : Rule} {placeholder : Value}
    {className : String} {dropped : List String} (h : r.HasNoAttributes)
    (hdropped : "required" ∉ dropped) :
    (Tag.attr? ⟨control, readAttributes (attributes
      ((controlAttributes name r placeholder className).without dropped))⟩ "required").isSome =
        r.required := by
  have hkeyed : KeyedBy ((controlAttributes name r placeholder className).without dropped)
      inputNames :=
    (List.filter_sublist.map _).trans (keyedBy_controlAttributes h)
  obtain ⟨names, hsub, hkeys⟩ := List.sublist_map_iff.mp hkeyed
  have hlookup := lookup_carried hkeys (hsub.nodup (by decide)) "required"
  rw [Dict.get?_without, if_neg hdropped,
    get?_controlAttributes h (by decide) (by decide)] at hlookup
  simp only [constraintEntries, Dict.get?_append, get?_entryFor, get?_required] at hlookup
  rw [Tag.attr?, readAttributes_attributes (hasPlainNames_of_keyedBy hkeyed (by decide)),
    Option.bind_some, hlookup]
  cases r.required <;> rfl

variable {kit : Toolkit} {o : RenderOptions}

/-- The markup of one group is read as one field. -/
theorem fields?_group {shown : ShownField} (h : Tagged markup tags) (hgroup : IsGroup tags shown) :
    fields? markup = some [shown] := by
  have hone := hgroup.fieldsOf []
  rw [List.append_nil] at hone
  rw [fields?, h.tags?, Option.map_some, hone, fieldsOf]

/-- **A field that is rendered is read back**: one group, with the name of the field. -/
theorem exists_shown {name : String} {r : Rule} (hkit : kit.controls = .standard)
    (hoverride : r.renderOverride? = none) (h : renderField kit name r o = .ok markup) :
    ∃ segs shown, Composed markup segs ∧ IsGroup (segs.map Segment.read) shown ∧
      Shows (name, r) shown := by
  obtain ⟨view, placeholder, className, tag, dropped, rest, rfl, hattrs, hcomposed, htag, hdropped,
    hrest⟩ := composed_renderField hkit hoverride h
  have hisName : IsName tag := isName_of_mem_controlNames htag
  have hkept : ∀ ns ∈ [[], areaDropped, selectionDropped], "required" ∉ ns := by decide
  have hkind : (opening tag (view.attrs.without dropped)).tagName ∈ controlNames :=
    (tagName_opening hisName _ []).symm ▸ htag
  refine ⟨_, _, hcomposed, isGroup_groupSegments hkind hrest, rfl, fun hr => ?_⟩
  rw [ShownField.isRequired, Option.any_some, tag_opening hisName, hattrs]
  exact attr?_required hr (hkept dropped hdropped)

theorem exists_shown_fields {rules : Named Rule} {groups : List String}
    (hkit : kit.controls = .standard) (hoverride : ∀ e ∈ rules, e.2.renderOverride? = none)
    (h : List.Forall₂ (Rendered kit o) rules groups) :
    ∃ segss shown, List.Forall₂ Composed groups segss ∧
      List.Forall₂ IsGroup (segss.map (·.map Segment.read)) shown ∧
      List.Forall₂ Shows rules shown := by
  induction h with
  | nil => exact ⟨[], [], .nil, .nil, .nil⟩
  | cons hfirst _ ih =>
      obtain ⟨hhere, hrest⟩ := List.forall_mem_cons.mp hoverride
      obtain ⟨segs, field, hsegs, hgroup, hshows⟩ := exists_shown hkit hhere hfirst
      obtain ⟨segss, shown, hsegss, hgroups, hshown⟩ := ih hrest
      exact ⟨segs :: segss, field :: shown, .cons hsegs hsegss, .cons hgroup hgroups,
        .cons hshows hshown⟩

/-- **A form that is rendered is read back**: its fields in their order, and which of them are
required. -/
theorem fields?_formMarkup {rules : Named Rule} {groups : List String}
    (hkit : kit.controls = .standard) (hoverride : ∀ e ∈ rules, e.2.renderOverride? = none)
    (h : List.Forall₂ (Rendered kit o) rules groups) :
    ∃ shown, fields? (formMarkup o groups) = some shown ∧ List.Forall₂ Shows rules shown := by
  obtain ⟨segss, shown, hsegss, hgroups, hshows⟩ := exists_shown_fields hkit hoverride h
  let buttonAttrs : Dict := Dict.union
    [(.text "type", .text "submit"), (.text "class", textOrNull o.submit.className)] o.submit.attrs
  have hform : Composed (formMarkup o groups) _ :=
    composed_form hsegss (formAttributes o.form) buttonAttrs (.text o.submit.text)
  have hbefore : ∀ t ∈ [(opening "form" (formAttributes o.form)).read], t.name ≠ "div" := by
    have hname : (opening "form" (formAttributes o.form)).read.name = "form" :=
      tagName_opening (by decide) _ []
    simp [hname]
  have hafter : ∀ t ∈ [(opening "button" buttonAttrs).read,
      (closing (.text o.submit.text) "button").read, (closing .null "form").read],
      t.name ≠ "div" := by
    have hopened : (opening "button" buttonAttrs).read.name = "button" :=
      tagName_opening (by decide) _ []
    have hclosed : (closing (.text o.submit.text) "button").read.name = "/button" :=
      tagName_closing (by decide) _
    have hend : (closing .null "form").read.name = "/form" := tagName_closing (by decide) _
    simp [hopened, hclosed, hend]
  refine ⟨shown, ?_, hshows⟩
  rw [fields?, hform.tagged.tags?, Option.map_some, formSegments, read_layered,
    ← fieldsOf_between hbefore hgroups hafter]
  simp

end FieldRules.Markup
