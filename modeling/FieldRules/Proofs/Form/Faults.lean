import FieldRules.Proofs.Form.Assembly
import FieldRules.Proofs.Markup.Faults
import FieldRules.Proofs.Validation.Faults

/-!
# Proofs — Faults

In which faults building a configuration and rendering it can end. A configuration is refused in
words, or for what its options or one of its fields end in (`Builder.failsWith_build`); what is
built fails to be shown for what a rule gives (`Builder.failsWith_generate`).
-/

namespace FieldRules

/-! ## Configurations -/

namespace Builder

open Fault (IsExcess IsOfRules)

variable {config : Value} {options : Except Fault RenderOptions} {P : Fault → Prop}

theorem failsWith_fieldRule (d : Dict) : FailsWith IsExcess (fieldRule d).outcome :=
  .outcome_bind (Rule.failsWith_ofDict _) fun _ _ =>
    .outcome_bind (Rule.failsWith_normalize _) fun _ _ => .ok _

/-- The rule of a field is read with no other fault than a number past the limits or a pattern that
is refused. -/
theorem failsWith_compiledRule (f : String × Dict) : FailsWith IsOfRules (compiledRule f).outcome :=
  .outcome_bind ((failsWith_fieldRule f.2).mono fun _ h => h.isOfRules) fun r _ =>
    .outcome_bind (.requireWritable (.excess .writing)) fun _ _ =>
      .outcome_bind (r.failsWith_compiledPattern _) fun _ _ => .ok _

/-- In the rule of a field, or in the rules that it is merged with, something is past the limits. -/
def HoldsExcess (f : String × Dict) : Prop :=
  Rule.DictExceeds (f.2.without ["rules", "ui"]) ∨ Rule.Exceeds (f.2.getD "rules") ∨
    ∃ r, (fieldRule f.2).outcome = .ok r ∧ r.PatternExceeds

theorem holdsExcess_of_compiledRule {f : String × Dict}
    (h : (compiledRule f).outcome = .error (.excess .magnitude)) : HoldsExcess f := by
  rcases Traced.outcome_bind_eq_error.mp h with hrule | ⟨r, hr, h⟩
  · refine Classical.byContradiction fun hsmall => ?_
    rw [HoldsExcess, not_or, not_or] at hsmall
    obtain ⟨base, hbase⟩ := Rule.ofDict_eq_ok.mpr hsmall.1
    obtain ⟨rules, hrules⟩ := Rule.normalize_eq_ok.mpr hsmall.2.1
    have hrule' : ∃ r, (fieldRule f.2).outcome = .ok r :=
      ⟨_, Traced.outcome_bind_eq_ok.mpr ⟨base, hbase,
        Traced.outcome_bind_eq_ok.mpr ⟨rules, hrules, rfl⟩⟩⟩
    obtain ⟨r, hr⟩ := hrule'
    rw [hr] at hrule
    cases hrule
  · rcases Traced.outcome_bind_eq_error.mp h with hname | ⟨-, -, h⟩
    · cases FailsWith.requireWritable (P := (· = .excess .writing)) rfl _ hname
    · rcases Traced.outcome_bind_eq_error.mp h with hpattern | ⟨pattern, -, h⟩
      · exact .inr (.inr ⟨r, hr, Rule.patternExceeds_of_compiledPattern hpattern⟩)
      · cases h

theorem failsWith_addFields {fields : Named Dict}
    (h : ∀ f ∈ fields, FailsWith P (compiledRule f).outcome) (s : Schema) :
    FailsWith P (addFields s fields).outcome := by
  induction fields generalizing s with
  | nil => exact .ok s
  | cons f rest ih =>
      obtain ⟨hf, hrest⟩ := List.forall_mem_cons.mp h
      exact .outcome_bind hf fun r _ => ih hrest _

theorem failsWith_addEntries {entries : List Value} (hwriting : P (.excess .writing))
    (h : ∀ f ∈ entries.filterMap field?, FailsWith P (compiledRule f).outcome) (draft : Draft) :
    FailsWith P (addEntries draft entries).outcome := by
  induction entries generalizing draft with
  | nil => exact .ok draft
  | cons entry rest ih =>
      rw [filterMap_cons_eq, List.forall_mem_append] at h
      refine .outcome_bind ?_ fun next _ => ih h.2 next
      rw [addEntry_eq]
      exact .outcome_bind (.requireWritable hwriting) fun _ _ =>
        .outcome_bind (failsWith_addFields h.1 _) fun _ _ => .ok _

theorem failsWith_entriesOf (h : ∀ v, P (.usage (UsageError.invalidConfig v "builder")))
    (config : Value) : FailsWith P (entriesOf config) := by
  unfold entriesOf
  split
  · exact .ok _
  · exact .ok _
  · exact .error (h _)

/-- **A configuration is built** unless it is no list, its options end in a fault or one of its
fields does, or an integer that it holds for the button is too long. -/
theorem failsWith_build (husage : ∀ v, P (.usage (UsageError.invalidConfig v "builder")))
    (hwriting : P (.excess .writing)) (hoptions : FailsWith P options)
    (hfields : ∀ entries, entriesOf config = .ok entries →
      ∀ f ∈ entries.filterMap field?, FailsWith P (compiledRule f).outcome) :
    FailsWith P (build config options).outcome := by
  refine .outcome_bind (failsWith_entriesOf husage config) fun entries hentries => ?_
  refine .outcome_bind hoptions fun o _ => ?_
  exact failsWith_addEntries hwriting (hfields entries hentries) _

/-- Through the adapter for the full markup a configuration that is built fails for what a rule of
its schema gives, or because an integer is too long, and for nothing else. -/
theorem failsWith_generate {kit : Markup.Toolkit} (hkit : kit.controls = .standard)
    (hrenderers : ∀ f view context, ∃ v, kit.renderers f view context = .ok v)
    (husage : ∀ v, P (.usage (UsageError.invalidConfig v "builder")))
    (hwriting : P (.excess .writing)) (hbuild : FailsWith P (build config options).outcome)
    (hshown : ∀ draft, (build config options).outcome = .ok draft →
      ∀ f ∈ draft.1.fields, ∀ e, Markup.Unshowable f.2 e → P e) :
    FailsWith P (generate config (some (Adapter.markup kit)) options).outcome := by
  refine .outcome_bind (failsWith_entriesOf husage config) fun _ _ => ?_
  refine .outcome_bind hbuild fun draft hdraft => .outcome_bind (.ok ()) fun _ _ => ?_
  refine .outcome_bind ((Markup.failsWith_renderForm hkit hrenderers draft.1 draft.2).mono ?_)
    fun _ _ => .ok _
  rintro e (⟨f, hf, hunshowable⟩ | rfl)
  · exact hshown draft hdraft f hf e hunshowable
  · exact hwriting

end Builder
end FieldRules
