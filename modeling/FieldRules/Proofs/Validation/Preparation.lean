import FieldRules.Proofs.Matching
import FieldRules.Proofs.Validation.Outcome

/-!
# Proofs — Preparation

What it takes to prepare the rules of a record: each of them is normalized and its pattern
compiled, independently of the others and in their order.
-/

namespace FieldRules

/-! ## Patterns -/

namespace Rule

/-- The source of the rule's pattern has a flaw. -/
def Flawed (r : Rule) (source : String) (flaw : Pattern.Flaw) (position : Option Nat) : Prop :=
  r.pattern = some (.source source) ∧ Pattern.compile source = .error (.flaw flaw position)

/-- The compiler decides on the rule's pattern: it compiles the source or finds a flaw in it. -/
def Decided (r : Rule) : Prop :=
  ∀ source refusal, r.pattern = some (.source source) →
    Pattern.compile source = .error refusal → ∃ flaw position, refusal = .flaw flaw position

variable {r : Rule} {source : String} {flaw : Pattern.Flaw} {position : Option Nat}

theorem Flawed.compiledPattern (h : r.Flawed source flaw position) (field : Value) :
    r.compiledPattern field = .error (.ruleConfiguration
      (.invalidPattern source (flaw.describe source.toList position) field "rules")) := by
  rw [Rule.compiledPattern, h.1]
  simp only [h.2]

/-- **A pattern on which the compiler decides** compiles, under whatever name, or has a flaw. -/
theorem Decided.cases (h : r.Decided) :
    (∃ pattern, ∀ field, r.compiledPattern field = .ok pattern) ∨
      ∃ source flaw position, r.Flawed source flaw position := by
  unfold Rule.compiledPattern
  cases hpattern : r.pattern with
  | none => exact .inl ⟨none, fun _ => rfl⟩
  | some spec =>
      cases spec with
      | compiled p => exact .inl ⟨some p, fun _ => rfl⟩
      | source s =>
          cases hs : Pattern.compile s with
          | ok p => exact .inl ⟨some p, fun _ => by simp only [hs]⟩
          | error refusal =>
              obtain ⟨flaw, position, rfl⟩ := h s refusal hpattern hs
              exact .inr ⟨s, flaw, position, hpattern, hs⟩

end Rule

/-! ## Rules -/

variable {p : Prepared} {prepared : List Prepared} {entries : Rules}

namespace Prepared

theorem make_eq_ok {key raw : Value} :
    (make key raw).outcome = .ok p ↔
      p.key = key ∧ (Rule.normalize raw).outcome = .ok p.rule ∧
        p.rule.compiledPattern key = .ok p.pattern := by
  simp only [make, Traced.outcome_bind_eq_ok, Traced.outcome_ofExcept, Traced.outcome_pure,
    Except.ok.injEq]
  constructor
  · rintro ⟨rule, hrule, pattern, hpattern, rfl⟩
    exact ⟨rfl, hrule, hpattern⟩
  · rintro ⟨rfl, hrule, hpattern⟩
    exact ⟨p.rule, hrule, p.pattern, hpattern, rfl⟩

/-- **All rules are prepared one by one.** -/
theorem all_eq_ok :
    (all entries).outcome = .ok prepared ↔
      List.Forall₂ (fun e p => (make e.1 e.2).outcome = .ok p) entries prepared := by
  induction entries generalizing prepared with
  | nil => simp [all, eq_comm]
  | cons e entries ih =>
      simp only [all, Traced.outcome_bind_eq_ok, Traced.outcome_pure, Except.ok.injEq, ih,
        List.forall₂_cons_left_iff]
      constructor
      · rintro ⟨p, hp, ps, hps, rfl⟩
        exact ⟨p, ps, hp, hps, rfl⟩
      · rintro ⟨p, ps, hp, hps, rfl⟩
        exact ⟨p, hp, ps, hps, rfl⟩

theorem compiled_of_make {key raw : Value} (h : (make key raw).outcome = .ok p) :
    p.rule.Compiled p.pattern :=
  ⟨_, (make_eq_ok.mp h).2.2⟩

/-- Each prepared field comes from a rule. -/
theorem exists_of_mem_all (h : (all entries).outcome = .ok prepared) (hp : p ∈ prepared) :
    ∃ e ∈ entries, (make e.1 e.2).outcome = .ok p :=
  exists_of_mem_right (all_eq_ok.mp h) hp

/-- Each rule has been prepared. -/
theorem exists_of_mem_entries (h : (all entries).outcome = .ok prepared) {e : Value × Value}
    (he : e ∈ entries) : ∃ p ∈ prepared, (make e.1 e.2).outcome = .ok p :=
  exists_of_mem_left (all_eq_ok.mp h) he

/-- All rules are prepared when each of them can be. -/
theorem exists_all :
    (∃ prepared, (all entries).outcome = .ok prepared) ↔
      ∀ e ∈ entries, ∃ p, (make e.1 e.2).outcome = .ok p := by
  constructor
  · rintro ⟨prepared, h⟩ e he
    obtain ⟨p, -, hp⟩ := exists_of_mem_entries h he
    exact ⟨p, hp⟩
  · intro h
    induction entries with
    | nil => exact ⟨[], rfl⟩
    | cons e rest ih =>
        obtain ⟨⟨p, hp⟩, hrest⟩ := List.forall_mem_cons.mp h
        obtain ⟨prepared, hprepared⟩ := ih hrest
        exact ⟨p :: prepared, all_eq_ok.mpr (.cons hp (all_eq_ok.mp hprepared))⟩

theorem compiled_of_mem_all (h : (all entries).outcome = .ok prepared) (hp : p ∈ prepared) :
    p.rule.Compiled p.pattern := by
  obtain ⟨e, -, he⟩ := exists_of_mem_all h hp
  exact compiled_of_make he

/-- The fields are those of the rules, in their order. -/
theorem fields_of_all (h : (all entries).outcome = .ok prepared) :
    prepared.map (·.field) = Rules.names entries :=
  map_eq_of_forall₂ (fun _ _ hmake => congrArg Value.display (make_eq_ok.mp hmake).1)
    (all_eq_ok.mp h)

end Prepared
end FieldRules
