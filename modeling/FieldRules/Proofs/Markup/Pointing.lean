import FieldRules.Proofs.Markup.Segments

/-!
# Proofs — Pointing

Where a label points. The id of a control comes from its attributes, which those of the presentation
and of the rule may replace (`controlId`), and is written as any attribute is; the label has a text
of its own making for it (`labelTarget`). So the label points at its control just if the two texts
are the same (`renderField_points`): for every id that counts and is no float they are, but an id
like `0` or `""` leaves the label with the name of the field, and a float has two texts.
-/

namespace FieldRules.Markup

/-! ## The id of a control -/

/-- The attributes that a presentation brings. -/
def presentedAttrs (r : Rule) : Dict :=
  (r.ui.map Presentation.attrs).getD []

/-- The id of a control: that of the presentation, that of the attributes, that of the rule, or the
name of the field. -/
def controlId (name : String) (r : Rule) : Value :=
  (((presentedAttrs r).get? "id").or (Dict.get? r.attrs "id")).getD (givenOr r.id (.text name))

/-- The text with which a label asks for an id. -/
def labelTarget (name : String) (id : Value) : String :=
  if id.truthy then id.display else name

/-- The attributes of a rule are mappings. -/
structure HasMappings (r : Rule) : Prop where
  own : Dict.IsMapping r.attrs
  presented : (presentedAttrs r).IsMapping

/-- All attributes of a rule have plain names. -/
structure HasPlainAttributes (r : Rule) : Prop where
  own : HasPlainNames r.attrs
  presented : HasPlainNames (presentedAttrs r)

variable {name : String} {r : Rule} {placeholder : Value} {className : String}
  {dropped : List String}

theorem controlAttributes_eq (name : String) (r : Rule) (placeholder : Value)
    (className : String) :
    controlAttributes name r placeholder className =
      ((ownAttributes name r placeholder className).union r.attrs).union (presentedAttrs r) := rfl

theorem get?_id_controlAttributes (hr : HasMappings r) :
    (controlAttributes name r placeholder className).get? "id" = some (controlId name r) := by
  have hown : (ownAttributes name r placeholder className).get? "id" =
      some (givenOr r.id (.text name)) := by
    simp [ownAttributes, Dict.get?_cons]
  rw [controlAttributes_eq, Dict.get?_union _ hr.presented, Dict.get?_union _ hr.own, hown,
    controlId]
  cases (presentedAttrs r).get? "id" <;> cases Dict.get? r.attrs "id" <;> rfl

variable (name placeholder className)

/-- **Type, name and id stand in front**, whatever else there is. -/
theorem exists_front (hr : HasMappings r) :
    ∃ front rest : Dict, controlAttributes name r placeholder className = front ++ rest ∧
      front.map (·.1) = ["type", "name", "id"].map .text ∧
      front.get? "id" = some (controlId name r) := by
  have hkeys : ["type", "name", "id"].map .text <+:
      (controlAttributes name r placeholder className).keys := by
    rw [controlAttributes_eq]
    refine List.IsPrefix.trans ?_ ((Dict.keys_prefix_union _ _).trans (Dict.keys_prefix_union _ _))
    simp [ownAttributes, Dict.keys]
  obtain ⟨others, hothers⟩ := hkeys
  obtain ⟨front, rest, hattrs, hfront, -⟩ := List.map_eq_append_iff.mp hothers.symm
  refine ⟨front, rest, hattrs, hfront, ?_⟩
  have hid : (controlAttributes name r placeholder className).get? "id" = _ :=
    get?_id_controlAttributes hr
  rw [hattrs, Dict.get?_append] at hid
  have hhas : Dict.has front "id" = true := by
    rw [Dict.has_eq_true, Dict.keys, hfront]
    simp
  rw [Dict.has] at hhas
  cases hget : Dict.get? front "id" with
  | none =>
      rw [hget] at hhas
      cases hhas
  | some v => rwa [hget, Option.some_or] at hid

/-- **The id that is written is found** in the tag of a control. -/
theorem id?_control {control : String} (hname : IsName control) (hr : HasMappings r)
    (hdropped : "id" ∉ dropped) {value : Option String}
    (hvalue : carriedValue? (controlId name r) = some value) (text : List Char) :
    Segment.id? ⟨text, (opening control
      ((controlAttributes name r placeholder className).without dropped)).inside⟩ = value := by
  obtain ⟨front, rest, hattrs, hkeys, hid⟩ := exists_front name placeholder className hr
  have hkeyed : KeyedBy (front.without dropped) ["type", "name", "id"] :=
    (List.filter_sublist.map _).trans (hkeys ▸ List.Sublist.refl _)
  obtain ⟨kept, hsub, hkept⟩ := List.sublist_map_iff.mp hkeyed
  have hlookup := lookup_carried hkept (hsub.nodup (by decide)) "id"
  rw [Dict.get?_without, if_neg hdropped, hid, Option.bind_some, hvalue] at hlookup
  have hwithout : (controlAttributes name r placeholder className).without dropped =
      front.without dropped ++ rest.without dropped := by
    rw [hattrs, Dict.without, List.filter_append]
    rfl
  rw [id?_eq_value?, opening, hwithout]
  exact value?_front hname (hasPlainNames_of_keyedBy hkeyed (by decide)) hlookup _ _

/-- Where all names are plain, an id that is not written is not found. -/
theorem id?_control_of_plain {control : String} (hname : IsName control) (hr : HasMappings r)
    (hplain : HasPlainAttributes r) (hdropped : "id" ∉ dropped) (text : List Char) :
    Segment.id? ⟨text, (opening control
      ((controlAttributes name r placeholder className).without dropped)).inside⟩ =
      (carriedValue? (controlId name r)).join := by
  have hkeyed := keyedBy_ownAttributes name r placeholder className
  have hmapping : (controlAttributes name r placeholder className).IsMapping :=
    ((isMapping_of_keyedBy hkeyed (by decide)).union hr.own).union hr.presented
  have hnames : HasPlainNames (controlAttributes name r placeholder className) :=
    hasPlainNames_union (hasPlainNames_union (hasPlainNames_of_keyedBy hkeyed (by decide))
      hplain.own) hplain.presented
  have hkept : HasPlainNames ((controlAttributes name r placeholder className).without dropped) :=
    fun e he => hnames e (List.mem_of_mem_filter he)
  rw [id?_eq_value?, value?_opening_of_plain hname hkept (hmapping.filter _),
    Dict.get?_without, if_neg hdropped, get?_id_controlAttributes hr]
  rfl

theorem display_eq_asText {v : Value} {text : String} (hfloat : ∀ x, v ≠ .float x)
    (h : carriedValue? v = some (some text)) : v.display = text := by
  cases v with
  | null => cases h
  | bool b => cases b <;> cases h
  | float x => exact absurd rfl (hfloat x)
  | _ => exact Option.some.inj (Option.some.inj h)

/-- What counts is written. -/
theorem carried_of_truthy {v : Value} (h : v.truthy = true) :
    ∃ value, carriedValue? v = some value := by
  cases v with
  | null => cases h
  | bool b =>
      cases b with
      | false => cases h
      | true => exact ⟨_, rfl⟩
  | _ => exact ⟨_, rfl⟩

/-! ## Labels -/

/-- The label asks for the id of the control, if that has one. -/
def PointsAt (label control : Segment) : Prop :=
  ∀ text, control.id? = some text → label.value? "for" = some text

/-- What is written as an id is what a label makes of it. -/
def KeepsText (name : String) (id : Value) : Prop :=
  ∀ text, carriedValue? id = some (some text) → labelTarget name id = text

variable {view : FieldView} {kit : Toolkit} {o : RenderOptions} {markup : String}

/-- The tags of a group that are neither a label nor belong to the control. -/
def frameNames : List String :=
  ["div", "/div", "/label", "small", "/small", "span", "/span"]

/-- The label of a group and the tags of its control, in their order. -/
def coreInsides (view : FieldView) (control : List Segment) : List (List Char) :=
  let label := (opening "label" (labelAttributes view)).inside
  if view.isFloating then control.map Segment.inside ++ [label]
  else label :: control.map Segment.inside

/-- What is not found in the frame of a group is found in its core. -/
theorem filter_groupSegments {P : List Char → Bool} (control : List Segment)
    (hP : ∀ inside, Segment.tagName ⟨[], inside⟩ ∈ frameNames → P inside = false) :
    ((groupSegments view control).map Segment.inside).filter P =
      (coreInsides view control).filter P := by
  have hopening (name : String) (hname : IsName name) (hmem : name ∈ frameNames) (attrs : Dict) :
      P (opening name attrs).inside = false := by
    refine hP _ ?_
    rw [tagName_opening hname]
    exact hmem
  have hclosing (name : String) (hname : IsName name) (hmem : "/" ++ name ∈ frameNames)
      (content : Value) : P (closing content name).inside = false := by
    refine hP _ ?_
    rw [closing, tagName_closing hname]
    exact hmem
  have hdiv := hopening "div" (by decide) (by decide)
  have hsmall := hopening "small" (by decide) (by decide)
  have hspan := hopening "span" (by decide) (by decide)
  have hdivEnd := hclosing "div" (by decide) (by decide)
  have hlabelEnd := hclosing "label" (by decide) (by decide)
  have hsmallEnd := hclosing "small" (by decide) (by decide)
  have hspanEnd := hclosing "span" (by decide) (by decide)
  rw [groupSegments, inside_framed, partSegments, coreInsides]
  by_cases hfloating : view.isFloating = true <;> by_cases hhint : view.hint.truthy = true <;>
    simp [hfloating, hhint, hdiv, hsmall, hspan, hdivEnd, hlabelEnd, hsmallEnd, hspanEnd,
      List.filter_cons]

/-- **A group has one label and one control.** -/
theorem exists_label_control (view : FieldView) {control : String} (attrs : Dict)
    {rest : List Segment} (hcontrol : control ∈ controlNames)
    (hrest : ∀ seg ∈ rest, IsChoicePart seg.inside) :
    (∃ label, (groupSegments view (opening control attrs :: rest)).filter
        (fun seg => seg.tagName = "label") = [label] ∧
      label.inside = (opening "label" (labelAttributes view)).inside) ∧
    ∃ seg, (groupSegments view (opening control attrs :: rest)).filter
        (fun seg => seg.tagName ∈ controlNames) = [seg] ∧
      seg.inside = (opening control attrs).inside := by
  have hkind : ∀ n ∈ controlNames, IsName n ∧ n ≠ "label" := by decide
  obtain ⟨hname, hne⟩ := hkind control hcontrol
  have hlabel : Segment.tagName ⟨[], (opening "label" (labelAttributes view)).inside⟩ = "label" :=
    tagName_opening (by decide) _ _
  have htag : Segment.tagName ⟨[], (opening control attrs).inside⟩ = control :=
    tagName_opening hname _ _
  have hnotControl : "label" ∉ controlNames := by decide
  have hothers : ∀ n ∈ ["option", "/option", "/select", "/textarea"],
      n ≠ "label" ∧ n ∉ controlNames := by decide
  have hframe : ∀ n ∈ frameNames, n ≠ "label" ∧ n ∉ controlNames := by decide
  constructor
  · have hrestNone : (rest.map Segment.inside).filter
        (fun i => decide (Segment.tagName ⟨[], i⟩ = "label")) = [] := by
      simpa using fun seg hseg => (hothers _ ((hrest seg hseg).tagName_mem [])).1
    refine filter_eq_singleton (fun seg => rfl) ?_
    rw [filter_groupSegments _ fun inside h => by simpa using (hframe _ h).1, coreInsides]
    split <;> simp [hlabel, htag, hne, hrestNone]
  · have hrestNone : (rest.map Segment.inside).filter
        (fun i => decide (Segment.tagName ⟨[], i⟩ ∈ controlNames)) = [] := by
      simpa using fun seg hseg => (hothers _ ((hrest seg hseg).tagName_mem [])).2
    refine filter_eq_singleton (fun seg => rfl) ?_
    rw [filter_groupSegments _ fun inside h => by simpa using (hframe _ h).2, coreInsides]
    split <;> simp [hlabel, htag, hcontrol, hnotControl, hrestNone]

/-- The id that a view has for its label. -/
theorem id_of_controlAttributes (hr : HasMappings r) (hname : view.name = name)
    (hattrs : view.attrs = controlAttributes name r placeholder className) :
    view.id = labelTarget name (controlId name r) := by
  rw [FieldView.id, hattrs, hname, Dict.getD, get?_id_controlAttributes hr]
  rfl

theorem value?_label (view : FieldView) (text : List Char) :
    Segment.value? "for" ⟨text, (opening "label" (labelAttributes view)).inside⟩ =
      some view.id := by
  rw [value?_opening (by decide) (keyedBy_labelAttributes view) (by decide) (by decide)]
  simp [labelAttributes, Dict.get?_cons, carriedValue?]

variable {name}

/-- **The label and the control of a field are read back.** The label asks for the text that it
makes of the control's id; an id that is written is found in the control. -/
theorem read_renderField (hkit : kit.controls = .standard) (hoverride : r.renderOverride? = none)
    (hr : HasMappings r) (h : renderField kit name r o = .ok markup) :
    ∃ segs label control, scan markup = some segs ∧
      segs.filter (fun seg => seg.tagName = "label") = [label] ∧
      segs.filter (fun seg => seg.tagName ∈ controlNames) = [control] ∧
      label.value? "for" = some (labelTarget name (controlId name r)) ∧
      (∀ value, carriedValue? (controlId name r) = some value → control.id? = value) ∧
      (HasPlainAttributes r → control.id? = (carriedValue? (controlId name r)).join) := by
  obtain ⟨view, placeholder, className, tag, dropped, rest, hname, hattrs, hcomposed, htag,
    hdropped, hrest⟩ := composed_renderField hkit hoverride h
  obtain ⟨⟨label, hlabel, hlabelInside⟩, control, hcontrol, hcontrolInside⟩ :=
    exists_label_control view (view.attrs.without dropped) htag hrest
  have hisName : IsName tag := isName_of_mem_controlNames htag
  have hkept : ∀ ns ∈ [[], areaDropped, selectionDropped], "id" ∉ ns := by decide
  refine ⟨_, label, control, hcomposed.scan, hlabel, hcontrol, ?_, ?_, ?_⟩
  · rw [← id_of_controlAttributes _ _ _ hr hname hattrs, ← value?_label view label.text,
      ← hlabelInside]
  · intro value hvalue
    rw [← id?_control name placeholder className hisName hr (hkept dropped hdropped)
      hvalue control.text, ← hattrs, ← hcontrolInside]
  · intro hplain
    rw [← id?_control_of_plain name placeholder className hisName hr hplain
      (hkept dropped hdropped) control.text, ← hattrs, ← hcontrolInside]

/-- **Where the label of a field points.** A field that is rendered with a built-in control has one
label and one control. The label points at the control exactly if what is written as the control's
id is what the label makes of it, or the name of the field where the id does not count. It is so for
every id that counts and is no float. (An id that is not written may still be found where attributes
have names that read as more than a name.) -/
theorem renderField_points (hkit : kit.controls = .standard) (hoverride : r.renderOverride? = none)
    (hr : HasMappings r) (h : renderField kit name r o = .ok markup) :
    ∃ segs label control, scan markup = some segs ∧
      segs.filter (fun seg => seg.tagName = "label") = [label] ∧
      segs.filter (fun seg => seg.tagName ∈ controlNames) = [control] ∧
      label.value? "for" = some (labelTarget name (controlId name r)) ∧
      (∀ value, carriedValue? (controlId name r) = some value → control.id? = value) ∧
      (carriedValue? (controlId name r) ≠ none ∨ HasPlainAttributes r →
        (PointsAt label control ↔ KeepsText name (controlId name r))) ∧
      ((controlId name r).truthy = true → (∀ x, controlId name r ≠ .float x) →
        PointsAt label control) := by
  obtain ⟨segs, label, control, hscan, hlabel, hcontrol, hfor, hid, hplain⟩ :=
    read_renderField hkit hoverride hr h
  have hpoints (hread : control.id? = (carriedValue? (controlId name r)).join) :
      PointsAt label control ↔ KeepsText name (controlId name r) := by
    simp only [PointsAt, KeepsText, hread, hfor, Option.join_eq_some_iff, Option.some.injEq]
  refine ⟨segs, label, control, hscan, hlabel, hcontrol, hfor, hid, ?_, fun htruthy hfloat => ?_⟩
  · rintro (hcarried | hattributes)
    · obtain ⟨value, hvalue⟩ := Option.ne_none_iff_exists'.mp hcarried
      exact hpoints (by rw [hid value hvalue, hvalue]; rfl)
    · exact hpoints (hplain hattributes)
  · obtain ⟨value, hvalue⟩ := carried_of_truthy htruthy
    refine (hpoints (by rw [hid value hvalue, hvalue]; rfl)).mpr fun text htext => ?_
    rw [labelTarget, if_pos htruthy]
    exact display_eq_asText hfloat htext

/-- The attributes of the presentation replace those of the rule. -/
def boxedRule : Rule :=
  { Rule.empty with
    id := some (.text "first")
    attrs := [(.text "id", .int 0), (.text "data-x", .text "\"id=\"z\"")]
    ui := some { Presentation.empty with attrs := [(.text "id", .int 7)] } }

theorem renderField_points_boxed : ∃ markup segs label control,
    renderField ⟨fun _ _ _ => .ok .null, .standard⟩ "size" boxedRule bareOptions = .ok markup ∧
      scan markup = some segs ∧ segs.filter (fun seg => seg.tagName = "label") = [label] ∧
      segs.filter (fun seg => seg.tagName ∈ controlNames) = [control] ∧
      control.id? = some "7" ∧ label.value? "for" = some "7" := by
  have hown : KeyedBy boxedRule.attrs ["id", "data-x"] := List.Sublist.refl _
  have hpresented : KeyedBy (presentedAttrs boxedRule) ["id"] := List.Sublist.refl _
  have hr : HasMappings boxedRule :=
    ⟨isMapping_of_keyedBy hown (by decide), isMapping_of_keyedBy hpresented (by decide)⟩
  obtain ⟨markup, hmarkup⟩ : ∃ markup, renderField ⟨fun _ _ _ => .ok .null, .standard⟩ "size"
      boxedRule bareOptions = .ok markup := ⟨_, rfl⟩
  obtain ⟨segs, label, control, hscan, hlabel, hcontrol, hfor, hid, -⟩ :=
    renderField_points rfl rfl hr hmarkup
  exact ⟨markup, segs, label, control, hmarkup, hscan, hlabel, hcontrol, hid _ rfl, hfor⟩

/-- An id that does not count. -/
def zeroRule : Rule :=
  { Rule.empty with attrs := [(.text "id", .int 0)] }

/-- The label asks for the name of the field, which the control does not have as its id. -/
theorem not_pointsAt_zero : ∃ markup segs label control,
    renderField ⟨fun _ _ _ => .ok .null, .standard⟩ "size" zeroRule bareOptions = .ok markup ∧
      scan markup = some segs ∧ segs.filter (fun seg => seg.tagName = "label") = [label] ∧
      segs.filter (fun seg => seg.tagName ∈ controlNames) = [control] ∧
      ¬ PointsAt label control := by
  have hown : KeyedBy zeroRule.attrs ["id"] := List.Sublist.refl _
  have hr : HasMappings zeroRule := ⟨isMapping_of_keyedBy hown (by decide), .nil⟩
  obtain ⟨markup, hmarkup⟩ : ∃ markup, renderField ⟨fun _ _ _ => .ok .null, .standard⟩ "size"
      zeroRule bareOptions = .ok markup := ⟨_, rfl⟩
  obtain ⟨segs, label, control, hscan, hlabel, hcontrol, hfor, hid, -⟩ :=
    read_renderField rfl rfl hr hmarkup
  refine ⟨markup, segs, label, control, hmarkup, hscan, hlabel, hcontrol, fun hpoints => ?_⟩
  have hasked := hpoints "0" (hid _ rfl)
  rw [hfor] at hasked
  revert hasked
  decide

end FieldRules.Markup
