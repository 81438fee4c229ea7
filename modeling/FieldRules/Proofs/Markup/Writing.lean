import FieldRules.Markup.Form
import FieldRules.Markup.Plain

/-!
# Proofs — Writing

What it takes for markup to be written. What is laid out is a text in any case; whether the text is
given out depends on the integers in it, none of which may be too long. For each step there is one
lemma, which says of a result what it is, and that nothing in it was too long.
-/

namespace FieldRules.Markup

variable {view : FieldView} {renderers : Renderers} {controls : Controls} {o : RenderOptions}
  {depth : Nat} {kit : Toolkit} {name : String} {r : Rule} {markup : String} {v : Value}

/-! ## Views -/

/-- What stands around the control of a field can be written: the id, to which the label points, the
label itself and the hint. -/
structure FieldView.IsWritable (view : FieldView) : Prop where
  id : (view.attrs.getD "id").isWritable = true
  label : view.label.isWritable = true
  hint : view.hint.isWritable = true

theorem FieldView.id?_eq_ok {id : String} :
    view.id? = .ok id ↔ (view.attrs.getD "id").isWritable = true ∧ id = view.id := by
  simp only [id?, bind_eq_ok, requireWritable_eq_ok, exists_const, pure_eq_ok]

/-! ## Controls -/

theorem renderInput_eq_ok :
    renderControl renderers controls o depth .input view = .ok v ↔
      areWritable view.attrs = true ∧ v = .text (renderInput view) := by
  simp only [renderControl, bind_eq_ok, requireWritable_eq_ok, exists_const, pure_eq_ok]

theorem renderArea_eq_ok :
    renderControl renderers controls o depth .area view = .ok v ↔
      isWritableArea view = true ∧ v = .text (renderArea view) := by
  simp only [renderControl, bind_eq_ok, requireWritable_eq_ok, exists_const, pure_eq_ok]

/-- **A selection is written** when its choices can be gone through. -/
theorem renderSelection_eq_ok :
    renderSelection view = .ok markup ↔
      isWritableSelection view = true ∧
        ∃ list, choices (Dict.getD view.rule.extras "options") = .ok list ∧
          Value.entriesWritable list = true ∧ markup = selectionOf view list := by
  simp only [renderSelection, bind_eq_ok, requireWritable_eq_ok, exists_const, pure_eq_ok]

theorem renderSelection_control_eq_ok :
    renderControl renderers controls o depth .selection view = .ok v ↔
      ∃ markup, renderSelection view = .ok markup ∧ v = .text markup := by
  simp only [renderControl, bind_eq_ok, pure_eq_ok]

/-! ## Fields -/

/-- **A field without a function of its own is written** as the group around its control. -/
theorem renderField_eq_ok (hoverride : r.renderOverride? = none) :
    renderField kit name r o = .ok markup ↔
      ∃ view control v, fieldView name r o = .ok view ∧
        chosenControl kit.controls view.control = .ok control ∧
        renderControl kit.renderers kit.controls o nestingLimit control view = .ok v ∧
        view.IsWritable ∧ v.isWritable = true ∧ markup = renderGroup view v.display := by
  simp only [renderField, hoverride, bind_eq_ok, FieldView.id?_eq_ok, requireWritable_eq_ok,
    exists_const, pure_eq_ok, Bool.and_eq_true]
  -- the id is asked for before the rest; here all that stands around the control is one condition
  constructor
  · rintro ⟨view, hview, control, hcontrol, v, hv, _, ⟨hid, -⟩, ⟨⟨hlabel, hhint⟩, hwritable⟩, rfl⟩
    exact ⟨view, control, v, hview, hcontrol, hv, ⟨hid, hlabel, hhint⟩, hwritable, rfl⟩
  · rintro ⟨view, control, v, hview, hcontrol, hv, ⟨hid, hlabel, hhint⟩, hwritable, rfl⟩
    exact ⟨view, hview, control, hcontrol, v, hv, view.id, ⟨hid, rfl⟩, ⟨⟨hlabel, hhint⟩, hwritable⟩,
      rfl⟩

/-! ## Forms -/

/-- The markup is the form around these groups, and the attributes of the form and of its button can
be written. -/
def IsFormMarkup (o : RenderOptions) (groups : List String) (markup : String) : Prop :=
  (areWritable (formAttributes o.form) = true ∧ areWritable (submitAttributes o.submit) = true) ∧
    markup = formMarkup o groups

/-- **A form is written** around its fields. -/
theorem renderForm_eq_ok {fields : Named Value} :
    (renderForm kit fields o).outcome = .ok markup ↔
      ∃ groups, (renderFields kit o fields).outcome = .ok groups ∧
        IsFormMarkup o groups markup := by
  simp only [renderForm, IsFormMarkup, Traced.outcome_bind_eq_ok, Traced.outcome_ofExcept,
    Traced.outcome_pure, requireWritable_eq_ok, exists_const, Except.ok.injEq, @eq_comm _ _ markup]
  constructor
  · rintro ⟨hform, groups, hgroups, hsubmit, hmarkup⟩
    exact ⟨groups, hgroups, ⟨hform, hsubmit⟩, hmarkup⟩
  · rintro ⟨groups, hgroups, ⟨hform, hsubmit⟩, hmarkup⟩
    exact ⟨hform, groups, hgroups, hsubmit, hmarkup⟩

theorem Plain.renderForm_eq_ok {fields : Named Value} :
    (renderForm fields o).outcome = .ok markup ↔
      ∃ groups, (renderFields o fields).outcome = .ok groups ∧ markup = formMarkup o groups := by
  simp only [renderForm, Traced.outcome_bind_eq_ok, Traced.outcome_pure, Except.ok.injEq,
    @eq_comm _ markup]

end FieldRules.Markup
