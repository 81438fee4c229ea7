import FieldRules.Proofs.Markup.Groups
import Mathlib.Data.List.Nodup

/-!
# Proofs — Placeholders

The place for the error of a field among all tags of a form. It is the empty `span` of the field's
group, and the only tag that says that it is for the errors of the field. Its id is made from the
name of the field; so are the ids of controls and hints, and the form has an id that anybody may
choose. The id belongs to the place for the error alone just if no field and not the form itself is
called so (`renderForm_placeholders`).
-/

namespace FieldRules.Markup

variable {name key : String} {segs : List Segment} {span : Segment} {names : List String}

/-! ## Counting ids -/

/-- A tag is the only one with a value just if the value is found once. -/
theorem filter_eq_singleton_iff {f : Segment → Option String} (hspan : span ∈ segs)
    (hvalue : f span = some key) :
    segs.filter (fun seg => f seg = some key) = [span] ↔ (segs.filterMap f).count key = 1 := by
  have hcount : (segs.filterMap f).count key =
      (segs.filter fun seg => f seg = some key).length := by
    rw [List.count_filterMap, List.countP_eq_length_filter]
    exact congrArg List.length (List.filter_congr fun seg _ => beq_eq_decide _ _)
  have hmem : span ∈ segs.filter fun seg => f seg = some key :=
    List.mem_filter.mpr ⟨hspan, by simpa using hvalue⟩
  rw [hcount, List.length_eq_one_iff]
  constructor
  · intro hone
    exact ⟨span, hone⟩
  · rintro ⟨only, hone⟩
    rw [hone] at hmem ⊢
    rw [List.mem_singleton.mp hmem]

theorem hint_ne_error (a b : String) : "hint-" ++ a ≠ "error-" ++ b := by
  intro h
  have hchars := congrArg String.toList h
  simp at hchars

/-- Of the ids of a field one is that of a place for an error, and another one may look like one. -/
theorem FieldIds.count {ids : List String} {field : String} (h : FieldIds field ids) :
    ids.count ("error-" ++ name) =
      (if field = "error-" ++ name then 1 else 0) + if field = name then 1 else 0 := by
  have herror : (("error-" ++ field) == ("error-" ++ name)) = (field == name) := by
    rw [Bool.eq_iff_iff, beq_iff_eq, beq_iff_eq, String.append_right_inj]
  cases h with
  | plain => simp [List.count_cons, herror, Nat.add_comm]
  | hinted =>
      have hhint : (("hint-" ++ field) == ("error-" ++ name)) = false :=
        beq_false_of_ne (hint_ne_error field name)
      simp [List.count_cons, herror, hhint, Nat.add_comm]

variable {groups : List (List Segment)}

theorem count_ids (h : List.Forall₂ IsFieldGroup names groups) (name : String) :
    (groups.flatten.filterMap Segment.id?).count ("error-" ++ name) =
      names.count ("error-" ++ name) + names.count name := by
  induction h with
  | nil => rfl
  | @cons field group names groups hgroup _ ih =>
      rw [List.flatten_cons, List.filterMap_append, List.count_append, hgroup.ids.count, ih,
        List.count_cons, List.count_cons]
      simp only [beq_iff_eq]
      omega

theorem filterMap_errors (h : List.Forall₂ IsFieldGroup names groups) :
    groups.flatten.filterMap (Segment.value? "data-error-for") = names := by
  induction h with
  | nil => rfl
  | cons hgroup _ ih => rw [List.flatten_cons, List.filterMap_append, hgroup.errors, ih]; rfl

/-! ## Forms of groups -/

/-- Among the tags of a form the `span` is where the error of a field is shown: it is empty, stands
in the group of the field and is the only one that says that it is for its errors. It is the only
one with its id as long as no field and not the form is called so. -/
structure ShowsErrors (names : List String) (formId : String) (segs : List Segment) (name : String)
    (span : Segment) : Prop where
  tag : IsPlaceholder name span
  empty : ∃ before after, segs = before ++ span :: closing .null "span" :: after
  field : ∃ before group after, segs = before ++ (group ++ after) ∧ IsFieldGroup name group ∧
    span ∈ group
  only : segs.filter (fun seg => seg.value? "data-error-for" = some name) = [span]
  onlyId : segs.filter (fun seg => seg.id? = some ("error-" ++ name)) = [span] ↔
    "error-" ++ name ∉ names ∧ formId ≠ "error-" ++ name

/-- The tags around the groups say nothing but the id of the form. -/
structure IsFormFrame (formId : String) (first : Segment) (last : List Segment) : Prop where
  id : first.id? = some formId
  errorFor : first.value? "data-error-for" = none
  silent : ∀ seg ∈ last, seg.id? = none ∧ seg.value? "data-error-for" = none

/-- **In a form of groups each field has its place for the error.** -/
theorem exists_showsErrors {formId : String} {first : Segment} {last : List Segment}
    (hgroups : List.Forall₂ IsFieldGroup names groups) (hnames : names.Nodup)
    (hframe : IsFormFrame formId first last) (hname : name ∈ names) :
    ∃ span, ShowsErrors names formId (first :: (groups.flatten ++ last)) name span := by
  obtain ⟨group, hmem, hgroup⟩ := exists_of_mem_left hgroups hname
  obtain ⟨firsts, lasts, rfl⟩ := List.append_of_mem hmem
  obtain ⟨head, before, span, after, hspan, htag⟩ := hgroup.placeholder
  have hlastIds : last.filterMap Segment.id? = [] :=
    List.filterMap_eq_nil_iff.mpr fun seg hseg => (hframe.silent seg hseg).1
  have hlastErrors : last.filterMap (Segment.value? "data-error-for") = [] :=
    List.filterMap_eq_nil_iff.mpr fun seg hseg => (hframe.silent seg hseg).2
  have hin : span ∈ first :: ((firsts ++ group :: lasts).flatten ++ last) := by
    simp [hspan]
  refine ⟨span, htag, ?_, ?_, ?_, ?_⟩
  · exact ⟨first :: (firsts.flatten ++ head :: before), after ++ (lasts.flatten ++ last),
      by simp [hspan]⟩
  · exact ⟨first :: firsts.flatten, group, lasts.flatten ++ last, by simp, hgroup, by simp [hspan]⟩
  · rw [filter_eq_singleton_iff hin htag.errorFor, List.filterMap_cons_none hframe.errorFor,
      List.filterMap_append, filterMap_errors hgroups, hlastErrors, List.append_nil]
    exact List.count_eq_one_of_mem hnames hname
  · rw [filter_eq_singleton_iff hin htag.id, List.filterMap_cons_some hframe.id,
      List.filterMap_append, hlastIds, List.append_nil, List.count_cons, count_ids hgroups,
      List.count_eq_one_of_mem hnames hname]
    rw [← List.count_eq_zero]
    by_cases hform : formId = "error-" ++ name
    · simp [hform]
    · simp [hform]

/-! ## Forms from their groups -/

/-- Each field of the form has its place for the error among the tags of the markup. -/
def HasPlaceholders (names : List String) (formId markup : String) : Prop :=
  ∃ segs, scan markup = some segs ∧ ∀ name ∈ names, ∃ span, ShowsErrors names formId segs name span

/-- Where nothing else is called like a place for an error, each has an id of its own. -/
theorem HasPlaceholders.unique {formId markup : String} (h : HasPlaceholders names formId markup)
    (hfree : ∀ name ∈ names, "error-" ++ name ∉ names ∧ formId ≠ "error-" ++ name) :
    ∃ segs, scan markup = some segs ∧ ∀ name ∈ names, ∃ span, IsPlaceholder name span ∧
      segs.filter (fun seg => seg.id? = some ("error-" ++ name)) = [span] := by
  obtain ⟨segs, hscan, hshown⟩ := h
  refine ⟨segs, hscan, fun name hname => ?_⟩
  obtain ⟨span, hspan⟩ := hshown name hname
  exact ⟨span, hspan.tag, hspan.onlyId.mpr (hfree name hname)⟩

theorem exists_groups {groups : List String} (h : List.Forall₂ IsFieldMarkup names groups) :
    ∃ groupss, List.Forall₂ Composed groups groupss ∧ List.Forall₂ IsFieldGroup names groupss := by
  induction h with
  | nil => exact ⟨[], .nil, .nil⟩
  | cons hfield _ ih =>
      obtain ⟨group, hgroup, hisGroup⟩ := hfield
      obtain ⟨groupss, hgroupss, hareGroups⟩ := ih
      exact ⟨group :: groupss, .cons hgroup hgroupss, .cons hisGroup hareGroups⟩

/-- The names of the attributes of a form. -/
def formNames : List String := ["id", "action", "method", "class"]

/-- **The lines of a form have a place for the error of each field**, whatever the order of the
form's own attributes and whatever its button says. -/
theorem hasPlaceholders_lines {formAttrs buttonAttrs : Dict} {keys : List String} {formId : String}
    {groups : List String} (hnames : names.Nodup) (hkeyed : KeyedBy formAttrs keys)
    (hkeys : keys.Perm formNames) (hid : formAttrs.get? "id" = some (.text formId))
    (hbutton : KeyedBy buttonAttrs ["type", "class"]) (submitText : Value)
    (hgroups : List.Forall₂ IsFieldMarkup names groups) :
    HasPlaceholders names formId (Text.joinWith "\n" ([tag "form" formAttrs] ++ groups ++
      [element "button" buttonAttrs submitText, "</form>"])) := by
  obtain ⟨groupss, hcomposed, hfields⟩ := exists_groups hgroups
  have hplain : ∀ n ∈ keys, IsPlainName n := fun n hn =>
    (by decide : ∀ n ∈ formNames, IsPlainName n) n (hkeys.mem_iff.mp hn)
  have hread (key : String) : Segment.value? key (opening "form" formAttrs) =
      ((formAttrs.get? key).bind carriedValue?).join :=
    value?_opening (by decide) hkeyed hplain (hkeys.nodup_iff.mpr (by decide)) []
  have hnoError : "data-error-for" ∉ keys := fun hmem =>
    (by decide : "data-error-for" ∉ formNames) (hkeys.mem_iff.mp hmem)
  have hsilent (key : String) (hkey : key ∉ ["type", "class"]) : ∀ seg ∈
      leading "\n" [opening "button" buttonAttrs, closing submitText "button"] ++
        leading "\n" [closing .null "form"], seg.value? key = none := by
    have hopened := value?_opening_of_not_mem (by decide : IsName "button") hbutton (by decide)
      (by decide) hkey
    have hclosed (n : String) (hn : IsName n) (text : List Char) :
        Segment.value? key ⟨text, '/' :: n.toList⟩ = none := value?_closing hn text
    simpa [leading, opening, closing] using
      ⟨hopened _, hclosed "button" (by decide) _, hclosed "form" (by decide) _⟩
  have hframe : IsFormFrame formId (opening "form" formAttrs)
      (leading "\n" [opening "button" buttonAttrs, closing submitText "button"] ++
        leading "\n" [closing .null "form"]) := by
    constructor
    case id =>
      rw [id?_eq_value?, hread, hid]
      rfl
    case errorFor =>
      exact value?_opening_of_not_mem (by decide) hkeyed hplain
        (hkeys.nodup_iff.mpr (by decide)) hnoError []
    case silent =>
      exact fun seg hseg => ⟨hsilent "id" (by decide) seg hseg,
        hsilent "data-error-for" (by decide) seg hseg⟩
  have hlines : List.Forall₂ IsFieldGroup names (groupss.map (leading "\n")) :=
    List.forall₂_map_right_iff.mpr (hfields.imp fun name group hgroup => hgroup.leading "\n")
  refine ⟨_, (composed_form hcomposed formAttrs buttonAttrs submitText).scan,
    fun name hname => ?_⟩
  have hshown := exists_showsErrors hlines hnames hframe hname
  simpa [formSegments, layered, ← List.flatMap_def] using hshown

/-! ## Whole forms -/

namespace Plain

variable {o : RenderOptions}

theorem isFieldMarkup_renderFields {fields : Named Value} {groups : List String}
    (h : (renderFields o fields).outcome = .ok groups) :
    List.Forall₂ IsFieldMarkup fields.names groups := by
  induction fields generalizing groups with
  | nil =>
      obtain rfl := Except.ok.inj h
      exact .nil
  | cons e rest ih =>
      obtain ⟨name, raw⟩ := e
      simp only [renderFields, Traced.outcome_bind_eq_ok, Traced.outcome_pure,
        Except.ok.injEq] at h
      obtain ⟨r, -, -, -, others, hothers, rfl⟩ := h
      exact .cons (isFieldMarkup_renderField name r o) (ih hothers)

/-- **Plain markup has its places for errors.** -/
theorem hasPlaceholders_renderForm {fields : Named Value} {markup : String}
    (hnames : fields.names.Nodup) (h : (renderForm fields o).outcome = .ok markup) :
    HasPlaceholders fields.names o.form.id markup := by
  obtain ⟨groups, hgroups, rfl⟩ := renderForm_eq_ok.mp h
  let attrs : Dict := [(.text "action", .text o.form.action), (.text "method", .text o.form.method),
    (.text "class", textOrNull o.form.className), (.text "id", .text o.form.id)]
  have hkeys : attrs.map (·.1) = ["action", "method", "class", "id"].map .text := rfl
  have hkeyed : KeyedBy attrs ["action", "method", "class", "id"] := List.Sublist.refl _
  have hform := tag_of_written hkeys (by decide) (by decide) "id" rfl "form"
  have hbutton : "<button type=\"submit\">" ++ escapeString o.submit.text ++ "</button>" =
      element "button" [(.text "type", .text "submit")] (.text o.submit.text) := by
    have htag : tag "button" [(.text "type", .text "submit")] = "<button type=\"submit\">" := by
      decide
    have hend : "</" ++ "button" ++ ">" = "</button>" := by decide
    have htext : escape (.text o.submit.text) = escapeString o.submit.text := rfl
    rw [element, htag, htext, ← hend]
    simp only [String.append_assoc]
  have hbuttonKeys : KeyedBy [(.text "type", .text "submit")] ["type", "class"] :=
    List.sublist_append_left [Value.text "type"] [Value.text "class"]
  have hall := hasPlaceholders_lines hnames hkeyed (by decide) rfl hbuttonKeys
    (.text o.submit.text) (isFieldMarkup_renderFields hgroups)
  rw [hform, ← hbutton] at hall
  exact hall

end Plain

/-- The rule of a field has no id and adds nothing to the markup of the field. -/
def IsBareField (e : String × Value) : Prop :=
  ∀ r, (Rule.normalize e.2).outcome = .ok r →
    r.id = none ∧ r.HasNoAttributes ∧ r.renderOverride? = none

variable {kit : Toolkit} {o : RenderOptions} {fields : Named Value}

theorem isFieldMarkup_renderFields {groups : List String} (hkit : kit.controls = .standard)
    (hbare : ∀ e ∈ fields, IsBareField e)
    (h : (renderFields kit o fields).outcome = .ok groups) :
    List.Forall₂ IsFieldMarkup fields.names groups := by
  induction fields generalizing groups with
  | nil =>
      obtain rfl := Except.ok.inj h
      exact .nil
  | cons e rest ih =>
      obtain ⟨name, raw⟩ := e
      obtain ⟨hfirst, hrest⟩ := List.forall_mem_cons.mp hbare
      simp only [renderFields, Traced.outcome_bind_eq_ok, Traced.outcome_ofExcept,
        Traced.outcome_pure, Except.ok.injEq] at h
      obtain ⟨r, hr, group, hgroup, others, hothers, rfl⟩ := h
      obtain ⟨hid, hattributes, hoverride⟩ := hfirst r hr
      exact .cons (isFieldMarkup_renderField hkit hoverride hattributes hid hgroup)
        (ih hrest hothers)

theorem hasPlaceholders_renderForm {markup : String} (hkit : kit.controls = .standard)
    (hnames : fields.names.Nodup) (hform : o.form.attrs = []) (hsubmit : o.submit.attrs = [])
    (hbare : ∀ e ∈ fields, IsBareField e)
    (h : (renderForm kit fields o).outcome = .ok markup) :
    HasPlaceholders fields.names o.form.id markup := by
  obtain ⟨groups, hgroups, -, rfl⟩ := renderForm_eq_ok.mp h
  have hattrs : formAttributes o.form = [(.text "id", .text o.form.id),
      (.text "action", .text o.form.action), (.text "method", .text o.form.method),
      (.text "class", textOrNull o.form.className)] := by
    rw [formAttributes, hform]
    rfl
  have hkeyed : KeyedBy (formAttributes o.form) formNames := by
    rw [hattrs]
    exact List.Sublist.refl _
  have hid : Dict.get? (formAttributes o.form) "id" = some (.text o.form.id) := by
    rw [hattrs]
    rfl
  have hbutton : KeyedBy (Dict.union [(.text "type", .text "submit"),
      (.text "class", textOrNull o.submit.className)] o.submit.attrs) ["type", "class"] := by
    rw [hsubmit]
    exact List.Sublist.refl _
  exact hasPlaceholders_lines hnames hkeyed (.refl _) hid hbutton (.text o.submit.text)
    (isFieldMarkup_renderFields hkit hbare hgroups)

/-- **Where a form shows the errors of its fields.** Whichever way a form is rendered, and whatever
its fields are called and its id is, each field has a place for its error: an empty `span` in the
group of the field with the id of the place, and the only tag that says that it is for the errors of
the field. No other tag has the id exactly if no field and not the form itself is called so. -/
theorem renderForm_placeholders (hnames : fields.names.Nodup) :
    (∀ (kit : Toolkit) (markup : String), kit.controls = .standard → o.form.attrs = [] →
      o.submit.attrs = [] →
      (∀ e ∈ fields, IsBareField e) → (renderForm kit fields o).outcome = .ok markup →
      HasPlaceholders fields.names o.form.id markup) ∧
    ∀ markup, (Plain.renderForm fields o).outcome = .ok markup →
      HasPlaceholders fields.names o.form.id markup :=
  ⟨fun _ _ hkit hform hsubmit hbare h =>
      hasPlaceholders_renderForm hkit hnames hform hsubmit hbare h,
    fun _ h => Plain.hasPlaceholders_renderForm hnames h⟩

/-- Two fields whose names have nothing to do with each other. -/
def contactFields : Named Value :=
  [("email", .text "required|email"), ("age", .dict [(.text "hint", .text "In years")])]

theorem renderForm_placeholders_contact :
    (∃ markup segs, (renderForm ⟨fun _ _ _ => .ok .null, .standard⟩ contactFields
        bareOptions).outcome = .ok markup ∧
      scan markup = some segs ∧ ∀ name ∈ ["email", "age"], ∃ span, IsPlaceholder name span ∧
        segs.filter (fun seg => seg.id? = some ("error-" ++ name)) = [span]) ∧
    ∃ markup segs, (Plain.renderForm contactFields bareOptions).outcome = .ok markup ∧
      scan markup = some segs ∧ ∀ name ∈ ["email", "age"], ∃ span, IsPlaceholder name span ∧
        segs.filter (fun seg => seg.id? = some ("error-" ++ name)) = [span] := by
  have hbare : ∀ e ∈ contactFields, IsBareField e := by
    refine List.forall_mem_cons.mpr ⟨?_, List.forall_mem_singleton.mpr ?_⟩ <;> intro r hr
    all_goals
      obtain rfl := Except.ok.inj hr
      exact ⟨rfl, ⟨rfl, rfl⟩, rfl⟩
  have hnames : contactFields.names.Nodup := by decide
  have hfree : ∀ name ∈ contactFields.names,
      "error-" ++ name ∉ contactFields.names ∧ bareOptions.form.id ≠ "error-" ++ name := by decide
  obtain ⟨full, hfull⟩ : ∃ markup, (renderForm ⟨fun _ _ _ => .ok .null, .standard⟩
      contactFields bareOptions).outcome = .ok markup := ⟨_, rfl⟩
  obtain ⟨plain, hplain⟩ : ∃ markup, (Plain.renderForm contactFields bareOptions).outcome =
      .ok markup := ⟨_, rfl⟩
  obtain ⟨hfulls, hplains⟩ := renderForm_placeholders (o := bareOptions) hnames
  obtain ⟨segs, hsegs⟩ := (hfulls _ full rfl rfl rfl hbare hfull).unique hfree
  obtain ⟨segs', hsegs'⟩ := (hplains plain hplain).unique hfree
  exact ⟨⟨full, segs, hfull, hsegs⟩, plain, segs', hplain, hsegs'⟩

/-- A field that is called like the place for the error of another one. -/
def clashingFields : Named Value :=
  [("a", .dict []), ("error-a", .dict [])]

/-- The id of the place for the error of `a` is that of another tag, too. -/
theorem not_unique_errorId : ∃ markup segs,
    (renderForm ⟨fun _ _ _ => .ok .null, .standard⟩ clashingFields bareOptions).outcome =
        .ok markup ∧
      scan markup = some segs ∧
      ∀ seg, segs.filter (fun seg => seg.id? = some ("error-" ++ "a")) ≠ [seg] := by
  have hbare : ∀ e ∈ clashingFields, IsBareField e := by
    refine List.forall_mem_cons.mpr ⟨?_, List.forall_mem_singleton.mpr ?_⟩ <;> intro r hr
    all_goals
      obtain rfl := Except.ok.inj hr
      exact ⟨rfl, ⟨rfl, rfl⟩, rfl⟩
  obtain ⟨markup, hmarkup⟩ : ∃ markup, (renderForm ⟨fun _ _ _ => .ok .null, .standard⟩
      clashingFields bareOptions).outcome = .ok markup := ⟨_, rfl⟩
  obtain ⟨segs, hscan, hshown⟩ :=
    hasPlaceholders_renderForm rfl (by decide) rfl rfl hbare hmarkup
  refine ⟨markup, segs, hmarkup, hscan, fun seg hseg => ?_⟩
  obtain ⟨span, hspan⟩ := hshown "a" (by decide)
  obtain ⟨before, after, hsegs⟩ := hspan.empty
  have hmem : span ∈ segs.filter fun seg => seg.id? = some ("error-" ++ "a") :=
    List.mem_filter.mpr ⟨by simp [hsegs], by simp [hspan.tag.id]⟩
  rw [hseg] at hmem
  rw [← List.mem_singleton.mp hmem] at hseg
  exact (hspan.onlyId.mp hseg).1 (by decide)

end FieldRules.Markup
