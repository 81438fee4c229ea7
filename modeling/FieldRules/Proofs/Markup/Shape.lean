import FieldRules.Proofs.Matching
import FieldRules.Proofs.Markup.Outline
import FieldRules.Proofs.Markup.Writing

/-!
# Proofs — Shape

The outline of a form is fixed by its fields: which tags there are, in which order, and which
texts stand between them. `formItems` and `Plain.formItems` say what it is for the full and for
the plain markup; no text in a name, a label, an attribute, a choice or an option can add a tag
to it or take one away.
-/

namespace FieldRules.Markup

/-! ## The shape of a form -/

/-- An element with text inside. -/
def elementItems (name content : String) : List Item :=
  [⟨"", name⟩, ⟨content, "/" ++ name⟩]

/-- The choices that a selection offers. -/
def offered (view : FieldView) : List (Value × Value) :=
  ((choices (Dict.getD view.rule.extras "options")).toOption).getD []

/-- The placeholder of a rule as a choice, if it counts as given. -/
def placeholderItems (r : Rule) : List (List Item) :=
  match r.placeholder with
  | some v => if v.truthy then [indented "  " (elementItems "option" v.asText)] else []
  | none => []

def selectionItems (view : FieldView) : List Item :=
  stacked ([[⟨"", "select"⟩]] ++ placeholderItems view.rule ++
    (offered view).map (fun choice => indented "  " (elementItems "option" choice.2.asText)) ++
    [[⟨"", "/select"⟩]])

/-- A text area, a selection, or else an input. -/
def controlItems (view : FieldView) : List Item :=
  if Dict.keyIs "textarea" view.control then elementItems "textarea" (currentValue view).asText
  else if Dict.keyIs "select" view.control then selectionItems view
  else [⟨"", "input"⟩]

/-- The parts of a field: label and control, the hint if there is one, and the place for the
error. -/
def partItems (view : FieldView) : List (List Item) :=
  let label := elementItems "label" view.label.asText
  (if view.isFloating then [controlItems view, label] else [label, controlItems view]) ++
  (if view.hint.truthy then [elementItems "small" view.hint.asText] else []) ++
  [elementItems "span" ""]

def groupItems (view : FieldView) : List Item :=
  stacked ([[⟨"", "div"⟩]] ++ (partItems view).map (indented "  ") ++ [[⟨"", "/div"⟩]])

/-- The form, its fields in their order, and the button. -/
def formItems (views : List FieldView) (o : RenderOptions) : List Item :=
  stacked ([[⟨"", "form"⟩]] ++ views.map groupItems ++
    [elementItems "button" o.submit.text, [⟨"", "/form"⟩]])

namespace Plain

def groupItems (name : String) (r : Rule) : List Item :=
  stacked [[⟨"", "div"⟩],
    indented "  " (elementItems "label" (labelOf name r).asText),
    indented "  " [⟨"", "input"⟩],
    indented "  " (elementItems "span" ""),
    [⟨"", "/div"⟩]]

def formItems (rules : Named Rule) (o : RenderOptions) : List Item :=
  stacked ([[⟨"", "form"⟩]] ++ rules.map (fun e => groupItems e.1 e.2) ++
    [elementItems "button" o.submit.text, [⟨"", "/form"⟩]])

end Plain

/-! ## Lines -/

theorem outlined_indented_lines {lines : List String} {outlines : List (List Item)}
    (h : List.Forall₂ Outlined lines outlines) :
    List.Forall₂ Outlined (lines.map ("  " ++ ·)) (outlines.map (indented "  ")) := by
  induction h with
  | nil => exact .nil
  | cons hline _ ih => exact .cons (hline.indented "  " (by decide)) ih

/-! ## Controls -/

theorem outlined_choiceLine (selected : Option String) (choice : Value × Value) :
    Outlined (choiceLine selected choice)
      (indented "  " (elementItems "option" choice.2.asText)) :=
  (outlined_element "option" (by decide) _ _).indented "  " (by decide)

theorem outlined_placeholderLines (r : Rule) :
    List.Forall₂ Outlined (placeholderLines r) (placeholderItems r) := by
  unfold placeholderLines placeholderItems
  cases r.placeholder with
  | none => exact .nil
  | some v =>
      by_cases hv : v.truthy = true
      · have hmarkup : ("  <option value=\"\">").toList =
            [' ', ' '] ++ '<' :: ("option".toList ++ (" value=\"\"".toList ++ ['>'])) := rfl
        have hopen := outlined_of_toList hmarkup (by decide) (by decide) (.inr rfl)
          ⟨by decide, rfl⟩
        have hclosing : "</option>".toList = '<' :: '/' :: ("option".toList ++ ['>']) := rfl
        have hline := hopen.append (outlined_closing hclosing (by decide) v)
        rw [← String.append_assoc] at hline
        simp only [hv, if_true]
        exact .cons hline .nil
      · simp only [hv]
        exact .nil

theorem outlined_renderSelection {view : FieldView} {markup : String}
    (h : renderSelection view = .ok markup) : Outlined markup (selectionItems view) := by
  obtain ⟨-, list, hchoices, -, rfl⟩ := renderSelection_eq_ok.mp h
  have hlist : ∀ selected, List.Forall₂ Outlined (list.map (choiceLine selected))
      (list.map fun choice => indented "  " (elementItems "option" choice.2.asText)) :=
    fun selected => forall₂_map_map fun choice _ => outlined_choiceLine selected choice
  rw [selectionItems, offered, hchoices]
  refine outlined_lines ?_ (by simp)
  refine List.rel_append (List.rel_append (List.rel_append ?_ ?_) (hlist _)) ?_
  · exact .cons (outlined_tag "select" (by decide) _) .nil
  · exact outlined_placeholderLines view.rule
  · exact .cons (outlined_bare rfl (by decide)) .nil

/-- Where only the built-in controls are registered, a view that asks for none of them has an
input. -/
theorem chosenControl_standard {kind : Value} {control : Control}
    (h : chosenControl .standard kind = .ok control) :
    control =
      if Dict.keyIs "textarea" kind then .area
      else if Dict.keyIs "select" kind then .selection
      else .input := by
  have hinput : controlOf .standard "input" = .ok .input := rfl
  unfold chosenControl at h
  cases kind with
  | text name =>
      simp only [Controls.standard, Named.lookup_cons, List.lookup_nil] at h
      by_cases harea : name = "textarea"
      · subst harea
        exact (Except.ok.inj h).symm
      by_cases hselection : name = "select"
      · subst hselection
        exact (Except.ok.inj h).symm
      by_cases hname : name = "input"
      · subst hname
        exact (Except.ok.inj h).symm
      simp only [harea, hselection, hname, if_false] at h
      simpa [harea, hselection] using (Except.ok.inj (hinput.symm.trans h)).symm
  | _ =>
      simp only [hinput] at h
      split at h
      · exact (Except.ok.inj h).symm
      · cases h

/-- The control of a field, where only the built-in ones are registered. -/
theorem outlined_control {renderers : Renderers} {controls : Controls} {o : RenderOptions}
    {depth : Nat} {view : FieldView} {control : Control} {markup : Value}
    (hcontrol : chosenControl .standard view.control = .ok control)
    (hmarkup : renderControl renderers controls o depth control view = .ok markup) :
    Outlined markup.display (controlItems view) := by
  have hchosen := chosenControl_standard hcontrol
  unfold controlItems
  by_cases harea : Dict.keyIs "textarea" view.control = true
  · rw [if_pos harea] at hchosen ⊢
    subst hchosen
    obtain ⟨-, rfl⟩ := renderArea_eq_ok.mp hmarkup
    exact outlined_element "textarea" (by decide) _ _
  rw [if_neg harea] at hchosen ⊢
  by_cases hselection : Dict.keyIs "select" view.control = true
  · rw [if_pos hselection] at hchosen ⊢
    subst hchosen
    obtain ⟨selection, hselection, rfl⟩ := renderSelection_control_eq_ok.mp hmarkup
    exact outlined_renderSelection hselection
  rw [if_neg hselection] at hchosen ⊢
  subst hchosen
  obtain ⟨-, rfl⟩ := renderInput_eq_ok.mp hmarkup
  exact outlined_tag "input" (by decide) _

/-! ## Fields -/

theorem outlined_fieldParts {view : FieldView} {control : String}
    (h : Outlined control (controlItems view)) :
    List.Forall₂ Outlined (fieldParts view control) (partItems view) := by
  have hlabel : Outlined (renderLabel view) (elementItems "label" view.label.asText) :=
    outlined_element "label" (by decide) _ _
  have hhint : Outlined (renderHint view) (elementItems "small" view.hint.asText) :=
    outlined_element "small" (by decide) _ _
  have herror : Outlined (renderError view) (elementItems "span" "") :=
    (outlined_tag "span" (by decide) _).append (outlined_bare rfl (by decide))
  unfold fieldParts partItems
  refine List.rel_append (List.rel_append ?_ ?_) (.cons herror .nil)
  · by_cases hfloating : view.isFloating = true
    · simp only [hfloating, if_true]
      exact .cons h (.cons hlabel .nil)
    · simp only [hfloating]
      exact .cons hlabel (.cons h .nil)
  · by_cases hgiven : view.hint.truthy = true
    · simp only [hgiven, if_true]
      exact .cons hhint .nil
    · simp only [hgiven]
      exact .nil

/-- A group is its opening tag, the lines of its parts, and its closing tag. -/
theorem renderGroup_lines (view : FieldView) (control : String) :
    renderGroup view control = Text.joinWith "\n"
      ([tag "div" [(.text "class", textOrNull view.groupClass),
          (.text "data-field", .text view.name)]] ++
        (fieldParts view control).map ("  " ++ ·) ++ ["</div>"]) := by
  have hne : (fieldParts view control).map ("  " ++ ·) ≠ [] := by
    simp [fieldParts]
  have hend : "\n</div>" = "\n" ++ "</div>" := by decide
  rw [Text.joinWith_append "\n" (by simp) (by simp), Text.joinWith_append "\n" (by simp) hne,
    renderGroup, hend, Text.joinWith_singleton, Text.joinWith_singleton, ← String.append_assoc]

theorem outlined_renderGroup {view : FieldView} {control : String}
    (h : Outlined control (controlItems view)) :
    Outlined (renderGroup view control) (groupItems view) := by
  have hparts := outlined_indented_lines (outlined_fieldParts h)
  rw [renderGroup_lines]
  refine outlined_lines (List.rel_append (List.rel_append ?_ hparts) ?_) (by simp)
  · exact .cons (outlined_tag "div" (by decide) _) .nil
  · exact .cons (outlined_bare rfl (by decide)) .nil

/-! ## Forms -/

/-- The rule of an entry, as it stands when the entry is rendered. -/
def Normalized (e : String × Value) (named : String × Rule) : Prop :=
  named.1 = e.1 ∧ (Rule.normalize e.2).outcome = .ok named.2

/-- The view of an entry, as it stands when the entry is rendered. -/
def Viewed (o : RenderOptions) (e : String × Value) (view : FieldView) : Prop :=
  ∃ r, (Rule.normalize e.2).outcome = .ok r ∧ fieldView e.1 r o = .ok view

/-- The entry does not bring a function that renders it. -/
def HasNoOverride (e : String × Value) : Prop :=
  ∀ r, (Rule.normalize e.2).outcome = .ok r → r.renderOverride? = none

theorem outlined_renderField {kit : Toolkit} (hkit : kit.controls = .standard) {name : String}
    {r : Rule} {o : RenderOptions} (hoverride : r.renderOverride? = none) {markup : String}
    (h : renderField kit name r o = .ok markup) :
    ∃ view, fieldView name r o = .ok view ∧ Outlined markup (groupItems view) := by
  rw [renderField_eq_ok hoverride, hkit] at h
  obtain ⟨view, control, written, hview, hcontrol, hwritten, -, -, rfl⟩ := h
  exact ⟨view, hview, outlined_renderGroup (outlined_control hcontrol hwritten)⟩

/-- Each field is rendered to the outline of its view. -/
theorem outlined_renderFields {kit : Toolkit} (hkit : kit.controls = .standard)
    {o : RenderOptions} {fields : Named Value} (hoverride : ∀ e ∈ fields, HasNoOverride e)
    {groups : List String} (h : (renderFields kit o fields).outcome = .ok groups) :
    ∃ views, List.Forall₂ (Viewed o) fields views ∧
      List.Forall₂ Outlined groups (views.map groupItems) := by
  induction fields generalizing groups with
  | nil =>
      rw [renderFields] at h
      rw [← Except.ok.inj h]
      exact ⟨[], .nil, .nil⟩
  | cons e rest ih =>
      obtain ⟨name, raw⟩ := e
      simp only [renderFields, Traced.outcome_bind_eq_ok, Traced.outcome_ofExcept,
        Traced.outcome_pure, Except.ok.injEq] at h
      obtain ⟨r, hr, group, hgroup, others, hothers, rfl⟩ := h
      obtain ⟨hfirst, hrest⟩ := List.forall_mem_cons.mp hoverride
      obtain ⟨view, hview, hgroup⟩ := outlined_renderField hkit (hfirst r hr) hgroup
      obtain ⟨views, hviews, hothers⟩ := ih hrest hothers
      exact ⟨view :: views, .cons ⟨r, hr, hview⟩ hviews, .cons hgroup hothers⟩

theorem outlined_renderForm {kit : Toolkit} (hkit : kit.controls = .standard)
    {o : RenderOptions} {fields : Named Value} (hoverride : ∀ e ∈ fields, HasNoOverride e)
    {markup : String} (h : (renderForm kit fields o).outcome = .ok markup) :
    ∃ views, List.Forall₂ (Viewed o) fields views ∧ Outlined markup (formItems views o) := by
  obtain ⟨groups, hgroups, -, rfl⟩ := renderForm_eq_ok.mp h
  obtain ⟨views, hviews, hgroups⟩ := outlined_renderFields hkit hoverride hgroups
  refine ⟨views, hviews, outlined_lines ?_ (by simp)⟩
  refine List.rel_append (List.rel_append ?_ hgroups) ?_
  · exact .cons (outlined_tag "form" (by decide) _) .nil
  · exact .cons (outlined_element "button" (by decide) _ _)
      (.cons (outlined_bare rfl (by decide)) .nil)

/-! ## Plain forms -/

namespace Plain

/-- A tag whose attributes are written even where there are none. -/
theorem outlined_spaced {opening name : String} {indent : List Char}
    (hopening : opening.toList = indent ++ '<' :: (name.toList ++ [' '])) (hindent : Bare indent)
    (hname : IsName name) (attrs : Dict) :
    Outlined (opening ++ attributes attrs ++ ">")
      [⟨String.ofList (unescape indent), name⟩] := by
  have hmarkup : (opening ++ attributes attrs ++ ">").toList =
      indent ++ '<' :: (name.toList ++ (' ' :: (attributes attrs).toList ++ ['>'])) := by
    simp [hopening]
  exact outlined_of_toList hmarkup hindent hname (.inr rfl) (quoted_attributes attrs).space

theorem outlined_label (name : String) (label : Value) :
    Outlined ("  <label for=\"" ++ escapeString name ++ "\">" ++ escape label ++ "</label>")
      (indented "  " (elementItems "label" label.asText)) := by
  have hmarkup : ("  <label for=\"" ++ escapeString name ++ "\">").toList =
      [' ', ' '] ++ '<' :: ("label".toList ++
        (" for=".toList ++ '"' :: (escapeChars name.toList ++ ['"']) ++ ['>'])) := by
    simp [toList_escapeString]
  have hfor : Quoted " for=".toList := ⟨by decide, rfl⟩
  have hopen := outlined_of_toList hmarkup (by decide) (by decide) (.inr rfl)
    (hfor.append (quoted_escapeChars name.toList).wrap)
  have hclosing : "</label>".toList = '<' :: '/' :: ("label".toList ++ ['>']) := rfl
  have h := hopen.append (outlined_closing hclosing (by decide) label)
  rwa [← String.append_assoc] at h

theorem outlined_error (attrs : Dict) :
    Outlined ("  <span " ++ attributes attrs ++ "></span>")
      (indented "  " (elementItems "span" "")) := by
  have hopening : "  <span ".toList = [' ', ' '] ++ '<' :: ("span".toList ++ [' ']) := rfl
  have hend : Outlined "</span>" [⟨"", "/span"⟩] := outlined_bare rfl (by decide)
  have hsplit : "></span>" = ">" ++ "</span>" := by decide
  have h := (outlined_spaced hopening (by decide) (by decide) attrs).append hend
  rw [hsplit, ← String.append_assoc]
  exact h

theorem outlined_button (text : String) :
    Outlined ("<button type=\"submit\">" ++ escapeString text ++ "</button>")
      (elementItems "button" text) := by
  have hmarkup : "<button type=\"submit\">".toList =
      [] ++ '<' :: ("button".toList ++ (" type=\"submit\"".toList ++ ['>'])) := rfl
  have hopen := outlined_of_toList hmarkup (by decide) (by decide) (.inr rfl) ⟨by decide, rfl⟩
  have hclosing : "</button>".toList = '<' :: '/' :: ("button".toList ++ ['>']) := rfl
  have h := hopen.append (outlined_closing hclosing (by decide) (.text text))
  rw [← String.append_assoc] at h
  exact h

theorem outlined_renderField (name : String) (r : Rule) (o : RenderOptions) :
    Outlined (renderField name r o) (groupItems name r) := by
  have hopening : "  <input ".toList = [' ', ' '] ++ '<' :: ("input".toList ++ [' ']) := rfl
  have hinput := outlined_spaced hopening (by decide) (by decide) (inputAttributes name r)
  refine outlined_lines ?_ (by simp)
  exact .cons (outlined_tag "div" (by decide) _) (.cons (outlined_label name _) (.cons hinput
    (.cons (outlined_error _) (.cons (outlined_bare rfl (by decide)) .nil))))

/-- Each field is rendered to the outline of its rule. -/
theorem outlined_renderFields {o : RenderOptions} {fields : Named Value} {groups : List String}
    (h : (renderFields o fields).outcome = .ok groups) :
    ∃ rules, List.Forall₂ Normalized fields rules ∧
      List.Forall₂ Outlined groups (rules.map fun e => groupItems e.1 e.2) := by
  induction fields generalizing groups with
  | nil =>
      rw [renderFields] at h
      rw [← Except.ok.inj h]
      exact ⟨[], .nil, .nil⟩
  | cons e rest ih =>
      obtain ⟨name, raw⟩ := e
      simp only [renderFields, Traced.outcome_bind_eq_ok, Traced.outcome_pure,
        Except.ok.injEq] at h
      obtain ⟨r, hr, -, -, others, hothers, rfl⟩ := h
      obtain ⟨rules, hrules, hothers⟩ := ih hothers
      exact ⟨(name, r) :: rules, .cons ⟨rfl, hr⟩ hrules,
        .cons (outlined_renderField name r o) hothers⟩

theorem outlined_renderForm {o : RenderOptions} {fields : Named Value} {markup : String}
    (h : (renderForm fields o).outcome = .ok markup) :
    ∃ rules, List.Forall₂ Normalized fields rules ∧ Outlined markup (formItems rules o) := by
  obtain ⟨groups, hgroups, rfl⟩ := Plain.renderForm_eq_ok.mp h
  obtain ⟨rules, hrules, hgroups⟩ := outlined_renderFields hgroups
  refine ⟨rules, hrules, outlined_lines ?_ (by simp)⟩
  refine List.rel_append (List.rel_append ?_ hgroups) ?_
  · have hopening : "<form ".toList = [] ++ '<' :: ("form".toList ++ [' ']) := rfl
    exact .cons (outlined_spaced hopening (by decide) (by decide) _) .nil
  · exact .cons (outlined_button _) (.cons (outlined_bare rfl (by decide)) .nil)

end Plain

/-! ## Scanned forms -/

/-- The markup is scanned to the tags and texts of the outline, and in every tag each double quote
that opens is closed. -/
def Reads (markup : String) (items : List Item) : Prop :=
  ∃ segs, scan markup = some segs ∧ segs.map Segment.item = items ∧
    ∀ seg ∈ segs, seg.inside.count '"' % 2 = 0

/-- **Markup has the shape that its fields fix**, whatever the texts in it are. -/
theorem renderForm_reads (fields : Named Value) (o : RenderOptions) :
    (∀ (kit : Toolkit) (markup : String), kit.controls = .standard →
      (∀ e ∈ fields, HasNoOverride e) →
      (renderForm kit fields o).outcome = .ok markup →
      ∃ views, List.Forall₂ (Viewed o) fields views ∧ Reads markup (formItems views o)) ∧
    ∀ markup, (Plain.renderForm fields o).outcome = .ok markup →
      ∃ rules, List.Forall₂ Normalized fields rules ∧
        Reads markup (Plain.formItems rules o) := by
  constructor
  · intro kit markup hkit hoverride h
    obtain ⟨views, hviews, hmarkup⟩ := outlined_renderForm hkit hoverride h
    exact ⟨views, hviews, hmarkup.scan⟩
  · intro markup h
    obtain ⟨rules, hrules, hmarkup⟩ := Plain.outlined_renderForm h
    exact ⟨rules, hrules, hmarkup.scan⟩

/-- A rule whose label and hint look like tags. -/
def hostileRule : Rule :=
  { Rule.empty with label := some (.text "<b>"), hint := some (.text "</div>") }

def bareOptions : RenderOptions where
  form := ⟨"form", "#", "POST", "", []⟩
  submit := ⟨"Send", "", []⟩
  classes := ⟨"", "", "", "", ""⟩

/-- The tags that the label, the hint and the name bring are text. -/
theorem renderForm_reads_hostile :
    ∃ markup, (renderForm ⟨fun _ _ _ => .ok .null, .standard⟩ [("\"><i>", .rule hostileRule)]
        bareOptions).outcome = .ok markup ∧
      Reads markup
        [⟨"", "form"⟩, ⟨"\n", "div"⟩, ⟨"\n  ", "label"⟩, ⟨"<b>", "/label"⟩, ⟨"\n  ", "input"⟩,
          ⟨"\n  ", "small"⟩, ⟨"</div>", "/small"⟩, ⟨"\n  ", "span"⟩, ⟨"", "/span"⟩,
          ⟨"\n", "/div"⟩, ⟨"\n", "button"⟩, ⟨"Send", "/button"⟩, ⟨"\n", "/form"⟩] := by
  refine ⟨_, rfl, ?_⟩
  have hoverride : ∀ e ∈ [("\"><i>", Value.rule hostileRule)], HasNoOverride e := by
    intro e he r hr
    rw [List.mem_singleton.mp he] at hr
    rw [← Except.ok.inj hr]
    rfl
  obtain ⟨views, hviews, hreads⟩ := (renderForm_reads _ bareOptions).1
    ⟨fun _ _ _ => .ok .null, .standard⟩ _ rfl hoverride rfl
  obtain ⟨view, _, ⟨r, hr, hview⟩, hnil, rfl⟩ := List.forall₂_cons_left_iff.mp hviews
  rw [← Except.ok.inj hr] at hview
  rw [List.forall₂_nil_left_iff.mp hnil, ← Except.ok.inj hview] at hreads
  exact hreads

end FieldRules.Markup
