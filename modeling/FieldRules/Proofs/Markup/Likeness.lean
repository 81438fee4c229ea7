import FieldRules.Proofs.Markup.Shape
import FieldRules.Proofs.Rule.Merging

/-!
# Proofs — Likeness

Rules that markup cannot tell apart. A rule may carry the name of its field among its extras, and
remembers which of its attributes its source gave; neither is written anywhere. So rules that are
alike but for these are rendered to the same text (`renderField_alike`), as long as a custom
function that renders one of them does not look there either.
-/

namespace FieldRules

/-- Rules that say the same, whatever name they carry and wherever they come from. -/
structure Rule.Alike (r s : Rule) : Prop where
  part : ∀ x, r.part x = s.part x
  attrs : r.attrs = s.attrs
  extras : ∀ key, key ≠ "name" → Dict.get? r.extras key = Dict.get? s.extras key

namespace Rule.Alike

variable {r s : Rule}

/-- Only extras and origin differ. -/
theorem eq (h : r.Alike s) : s = { r with extras := s.extras, provided := s.provided } := by
  refine ext_part (fun x => ?_) h.attrs.symm rfl rfl
  rw [← h.part x]
  cases x <;> rfl

theorem getD_extras (h : r.Alike s) {key : String} (hkey : key ≠ "name") :
    Dict.getD r.extras key = Dict.getD s.extras key := by
  rw [Dict.getD, Dict.getD, h.extras key hkey]

theorem renderOverride? (h : r.Alike s) : r.renderOverride? = s.renderOverride? := by
  have hui : r.ui = s.ui := h.part .ui
  unfold Rule.renderOverride?
  rw [hui, h.getD_extras (by decide)]

end Rule.Alike

namespace Markup

/-! ## Views -/

/-- Views that differ in nothing but their rules, which are alike. -/
def FieldView.Alike (v w : FieldView) : Prop :=
  ∃ s, v.rule.Alike s ∧ w = { v with rule := s }

/-- A custom function that does not tell such views apart. -/
def IsBlind (f : FieldView → RenderContext → Except Fault Value) : Prop :=
  ∀ v w context, v.Alike w → f v context = f w context

variable {r s : Rule} {name : String} {o : RenderOptions} {v w : FieldView}

/-- What is settled about a field does not depend on the extras of its rule. -/
theorem fieldView_withExtras (r : Rule) (extras : Dict) (provided : List Attribute) :
    fieldView name { r with extras, provided } o =
      (fun v => { v with rule := { r with extras, provided } }) <$> fieldView name r o := by
  simp only [fieldView, map_bind, map_pure]
  rfl

theorem fieldView_alike (h : r.Alike s) :
    fieldView name s o = (fun v => { v with rule := s }) <$> fieldView name r o := by
  rw [h.eq]
  exact fieldView_withExtras r s.extras s.provided

theorem rule_fieldView (h : fieldView name r o = .ok v) : v.rule = r := by
  simp only [fieldView, bind_eq_ok] at h
  obtain ⟨inputClass, -, groupClass, -, labelClass, -, errorClass, -, h⟩ := h
  rw [← Except.ok.inj h]

/-! ## Controls -/

theorem FieldView.Alike.currentValue (h : v.Alike w) : currentValue v = currentValue w := by
  obtain ⟨s, hs, rfl⟩ := h
  unfold Markup.currentValue
  rw [hs.getD_extras (by decide)]

theorem renderSelection_alike (h : v.Alike w) : renderSelection v = renderSelection w := by
  have hcurrent := h.currentValue
  obtain ⟨s, hs, rfl⟩ := h
  have hplaceholder : v.rule.placeholder = s.placeholder := hs.part .placeholder
  have hoptions : Dict.getD v.rule.extras "options" = Dict.getD s.extras "options" :=
    hs.getD_extras (by decide)
  simp only [renderSelection, isWritableSelection, selectionOf, placeholderLines, hcurrent,
    hplaceholder, hoptions]

/-- No built-in control tells alike views apart, and no custom one that is blind. -/
theorem renderControl_alike {renderers : Renderers} {controls : Controls} {control : Control}
    (hblind : ∀ f, control = .custom f → IsBlind (renderers f)) (h : v.Alike w) (depth : Nat) :
    renderControl renderers controls o depth control v =
      renderControl renderers controls o depth control w := by
  have hattrs : v.attrs = w.attrs := by
    obtain ⟨s, -, rfl⟩ := h
    rfl
  cases control with
  | input => simp only [renderControl, renderInput, hattrs]
  | area => simp only [renderControl, renderArea, isWritableArea, hattrs, h.currentValue]
  | selection => simp only [renderControl, renderSelection_alike h]
  | custom f =>
      cases depth with
      | zero => rfl
      | succ depth => exact hblind f rfl v w _ h

theorem renderGroup_alike (h : v.Alike w) (control : String) :
    renderGroup v control = renderGroup w control := by
  obtain ⟨s, -, rfl⟩ := h
  rfl

/-! ## Fields -/

variable {kit : Toolkit}

theorem chosenControl_ne_custom {kind : Value} {control : Control} {f : Handle}
    (h : chosenControl .standard kind = .ok control) : control ≠ .custom f := by
  rw [chosenControl_standard h]
  split
  · simp
  · split <;> simp

/-- The markup of a field, once its view is settled. -/
def viewMarkup (kit : Toolkit) (o : RenderOptions) (override : Option Handle) (view : FieldView) :
    Except Fault String :=
  match override with
  | some f => do
    let markup ← renderControl kit.renderers kit.controls o nestingLimit (.custom f) view
    requireWritable markup.isWritable
    return markup.display
  | none => do
    let control ← chosenControl kit.controls view.control
    let markup ← renderControl kit.renderers kit.controls o nestingLimit control view
    let _ ← view.id?
    requireWritable (view.label.isWritable && view.hint.isWritable && markup.isWritable)
    return renderGroup view markup.display

theorem renderField_eq (kit : Toolkit) (name : String) (r : Rule) (o : RenderOptions) :
    renderField kit name r o = fieldView name r o >>= viewMarkup kit o r.renderOverride? :=
  rfl

theorem viewMarkup_alike {override : Option Handle} (hkit : kit.controls = .standard)
    (hblind : ∀ f, override = some f → IsBlind (kit.renderers f)) (h : v.Alike w) :
    viewMarkup kit o override v = viewMarkup kit o override w := by
  unfold viewMarkup
  cases override with
  | some f =>
      have hsame : IsBlind (kit.renderers f) := hblind f rfl
      dsimp only
      rw [renderControl_alike (by simpa using hsame) h]
  | none =>
      have hkind : v.control = w.control := by
        obtain ⟨s, -, rfl⟩ := h
        rfl
      dsimp only
      rw [hkind, hkit]
      refine bind_congr_ok fun control hcontrol => ?_
      have hbuiltIn : ∀ f, control = .custom f → IsBlind (kit.renderers f) := fun f hf =>
        absurd hf (chosenControl_ne_custom hcontrol)
      rw [renderControl_alike hbuiltIn h]
      have htexts : v.id? = w.id? ∧ v.label = w.label ∧ v.hint = w.hint := by
        obtain ⟨s, -, rfl⟩ := h
        exact ⟨rfl, rfl, rfl⟩
      simp only [renderGroup_alike h, htexts]

/-- **Alike rules are rendered to the same text.** -/
theorem renderField_alike (hkit : kit.controls = .standard) (h : r.Alike s)
    (hblind : ∀ f, r.renderOverride? = some f → IsBlind (kit.renderers f)) :
    renderField kit name r o = renderField kit name s o := by
  rw [renderField_eq, renderField_eq, fieldView_alike h, ← h.renderOverride?, map_eq_pure_bind,
    bind_assoc]
  refine bind_congr_ok fun v hview => ?_
  rw [pure_bind]
  exact viewMarkup_alike hkit hblind ⟨s, rule_fieldView hview ▸ h, rfl⟩

/-! ## Forms -/

/-- The field is rendered to this group. -/
def Rendered (kit : Toolkit) (o : RenderOptions) (e : String × Rule) (group : String) : Prop :=
  renderField kit e.1 e.2 o = .ok group

/-- **Fields are rendered when each rule is normalized and rendered.** -/
theorem renderFields_eq_ok {fields : Named Value} {groups : List String} :
    (renderFields kit o fields).outcome = .ok groups ↔
      ∃ rules, List.Forall₂ Normalized fields rules ∧
        List.Forall₂ (Rendered kit o) rules groups := by
  induction fields generalizing groups with
  | nil => simp [renderFields, eq_comm]
  | cons e rest ih =>
      obtain ⟨name, raw⟩ := e
      simp only [renderFields, Traced.outcome_bind_eq_ok, Traced.outcome_ofExcept,
        Traced.outcome_pure, Except.ok.injEq, ih]
      constructor
      · rintro ⟨r, hr, group, hgroup, others, ⟨rules, hrules, hothers⟩, rfl⟩
        exact ⟨(name, r) :: rules, .cons ⟨rfl, hr⟩ hrules, .cons hgroup hothers⟩
      · rintro ⟨rules, hrules, hgroups⟩
        obtain ⟨⟨n, r⟩, rules, ⟨hname, hr⟩, hrest, rfl⟩ := List.forall₂_cons_left_iff.mp hrules
        obtain ⟨group, others, hgroup, hothers, rfl⟩ := List.forall₂_cons_left_iff.mp hgroups
        obtain rfl : n = name := hname
        exact ⟨r, hr, group, hgroup, others, ⟨rules, hrest, hothers⟩, rfl⟩

/-- **A form is rendered when its rules are**, each of them normalized. -/
theorem renderForm_eq_rendered {fields : Named Value} {markup : String} :
    (renderForm kit fields o).outcome = .ok markup ↔
      ∃ rules groups, List.Forall₂ Normalized fields rules ∧
        List.Forall₂ (Rendered kit o) rules groups ∧ IsFormMarkup o groups markup := by
  simp only [renderForm_eq_ok, renderFields_eq_ok]
  constructor
  · rintro ⟨groups, ⟨rules, hrules, hgroups⟩, hmarkup⟩
    exact ⟨rules, groups, hrules, hgroups, hmarkup⟩
  · rintro ⟨rules, groups, hrules, hgroups, hmarkup⟩
    exact ⟨groups, ⟨rules, hrules, hgroups⟩, hmarkup⟩

end Markup
end FieldRules
