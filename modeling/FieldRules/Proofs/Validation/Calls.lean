import FieldRules.Proofs.Validation.Settling
import FieldRules.Proofs.Validation.Totality

/-!
# Proofs — Calls

Which custom validators a validation calls, and with what. Preparing the rules calls none
(`isSilent_all`), so a pattern that is refused ends the validation before the first call. After
that each field owes at most one call (`Prepared.call?`). The books are kept along any interleaving
of the fields, whatever the validators say: the calls made and the calls still owed are together
those of all fields (`Ledger.Balanced`), at every ledger that is reached.
-/

namespace FieldRules

open Relation (ReflTransGen)

/-! ## Traces without calls -/

namespace Traced

variable {α β : Type} {x : Traced α} {f : α → Traced β}

/-- The operation calls no custom function. -/
def IsSilent (x : Traced α) : Prop := x.callsMade = []

theorem callsMade_bind_of_ok {a : α} (h : x.outcome = .ok a) :
    (x >>= f).callsMade = x.callsMade ++ (f a).callsMade := by
  show (andThen x f).callsMade = _
  rw [andThen, h]
  exact List.filterMap_append

theorem callsMade_bind_of_error {e : Fault} (h : x.outcome = .error e) :
    (x >>= f).callsMade = x.callsMade := by
  show (andThen x f).callsMade = _
  rw [andThen, h]
  rfl

theorem IsSilent.bind (hx : x.IsSilent) (hf : ∀ a, (f a).IsSilent) : (x >>= f).IsSilent := by
  unfold IsSilent
  cases h : x.outcome with
  | error e => rw [callsMade_bind_of_error h, hx]
  | ok a => rw [callsMade_bind_of_ok h, hx, hf a, List.append_nil]

end Traced

theorem Rule.isSilent_applyTokens (tokens : List (List Char)) (r : Rule) :
    (Rule.applyTokens tokens r).IsSilent := by
  induction tokens generalizing r with
  | nil => rfl
  | cons cs rest ih =>
      refine Traced.IsSilent.bind rfl fun token => ?_
      cases token with
      | ignored text => exact Traced.IsSilent.bind rfl fun _ => ih _
      | _ => exact ih _

theorem Rule.isSilent_normalize (raw : Value) : (Rule.normalize raw).IsSilent := by
  unfold Rule.normalize
  split
  · split
    · rfl
    · rfl
    · exact (isSilent_applyTokens _ _).bind fun _ => rfl
    · rfl
  · rfl

namespace Prepared

theorem isSilent_make (key raw : Value) : (make key raw).IsSilent :=
  (Rule.isSilent_normalize raw).bind fun _ => .bind rfl fun _ => rfl

/-- **Preparing rules calls nothing.** -/
theorem isSilent_all (entries : Rules) : (all entries).IsSilent := by
  induction entries with
  | nil => rfl
  | cons e rest ih => exact (isSilent_make e.1 e.2).bind fun _ => ih.bind fun _ => rfl

end Prepared

/-! ## Refused patterns -/

/-- The source of the rule's pattern has a flaw. -/
def PatternFlawed (e : Value × Value) (source : String) (flaw : Pattern.Flaw)
    (position : Option Nat) : Prop :=
  ∃ r, (Rule.normalize e.2).outcome = .ok r ∧ r.pattern = some (.source source) ∧
    Pattern.compile source = .error (.flaw flaw position)

/-- The pattern of the rule is refused. -/
def PatternRefused (e : Value × Value) : Prop :=
  ∃ source flaw position, PatternFlawed e source flaw position

/-- The compiler decides on the rule's pattern: it compiles the source or finds a flaw in it. -/
def PatternDecided (e : Value × Value) : Prop :=
  ∀ r source refusal, (Rule.normalize e.2).outcome = .ok r → r.pattern = some (.source source) →
    Pattern.compile source = .error refusal → ∃ flaw position, refusal = .flaw flaw position

/-- The report of a flaw in the pattern of a field. -/
def patternReport (key : Value) (source : String) (flaw : Pattern.Flaw) (position : Option Nat) :
    Fault :=
  .ruleConfiguration (.invalidPattern source (flaw.describe source.toList position) key "rules")

section

variable {e : Value × Value} {before after entries : Rules} {prepared : List Prepared}
  {source : String} {flaw : Pattern.Flaw} {position : Option Nat}

theorem patternCompiles_of_not_refused (hdecided : PatternDecided e) (h : ¬ PatternRefused e) :
    PatternCompiles e := by
  intro r hr
  have hr' : r.Decided := fun source refusal => hdecided r source refusal hr
  rcases hr'.cases with ⟨pattern, hpattern⟩ | ⟨source, flaw, position, hflawed⟩
  · exact ⟨pattern, hpattern _⟩
  · exact absurd ⟨source, flaw, position, r, hr, hflawed⟩ h

/-- A rule whose pattern is refused cannot be prepared. -/
theorem PatternFlawed.make_eq_error (h : PatternFlawed e source flaw position) :
    (Prepared.make e.1 e.2).outcome = .error (patternReport e.1 source flaw position) := by
  obtain ⟨r, hr, hflawed⟩ := h
  have hcompiled : r.compiledPattern e.1 = .error (patternReport e.1 source flaw position) :=
    Rule.Flawed.compiledPattern hflawed _
  rw [Prepared.make, Traced.outcome_bind, hr]
  show (Traced.ofExcept (r.compiledPattern e.1) >>= _).outcome = _
  rw [Traced.outcome_bind, Traced.outcome_ofExcept, hcompiled]
  rfl

/-- **The first rule that cannot be prepared is reported.** -/
theorem Prepared.all_eq_error {fault : Fault} (after : Rules)
    (hbefore : ∀ b ∈ before, ∃ p, (make b.1 b.2).outcome = .ok p)
    (h : (make e.1 e.2).outcome = .error fault) :
    (all (before ++ e :: after)).outcome = .error fault := by
  induction before with
  | nil =>
      rw [List.nil_append, all, Traced.outcome_bind, h]
      rfl
  | cons b before ih =>
      obtain ⟨p, hp⟩ := hbefore b (by simp)
      have hrest := ih fun b' hb' => hbefore b' (by simp [hb'])
      rw [List.cons_append, all, Traced.outcome_bind, hp]
      show (all (before ++ e :: after) >>= _).outcome = _
      rw [Traced.outcome_bind, hrest]
      rfl

/-- Of the members with a property there is a first one. -/
theorem exists_first {α : Type} {P : α → Prop} {l : List α} (h : ∃ a ∈ l, P a) :
    ∃ before a after, l = before ++ a :: after ∧ (∀ b ∈ before, ¬ P b) ∧ P a := by
  classical
  have hfound : (l.find? fun a => decide (P a)).isSome := by
    simpa using h
  obtain ⟨a, ha⟩ := Option.isSome_iff_exists.mp hfound
  obtain ⟨hP, before, after, heq, hbefore⟩ := List.find?_eq_some_iff_append.mp ha
  exact ⟨before, a, after, heq, by simpa using hbefore, by simpa using hP⟩

end

/-! ## The call that a field owes -/

namespace Prepared

/-- **The call that a field owes**: that of its custom validator, with its own value and the whole
record. There is one when the value is not blank and satisfies all constraints. -/
def call? (record : Dict) (p : Prepared) : Option Call :=
  if (p.value record).isEmpty = false ∧
      ∀ c ∈ p.rule.constraints p.pattern, c.holds (p.value record).asText = true then
    p.rule.validate.map fun f => ⟨p.field, f, p.value record, record⟩
  else none

variable {record : Dict} {p : Prepared}

theorem field_of_call {c : Call} (h : p.call? record = some c) : c.field = p.field := by
  unfold call? at h
  split at h
  · obtain ⟨f, -, rfl⟩ := Option.map_eq_some_iff.mp h
    rfl
  · cases h

end Prepared

theorem Running.filterMap_started (validators : Validators) (record : Dict) (r : Running) :
    (r.started validators record).filterMap Entry.call? = (r.call? record).toList := by
  unfold Running.started
  cases r.call? record <;> cases r.failure? validators record <;>
    by_cases hround : r.round validators = 0 <;> simp [hround, Entry.call?]

theorem Running.filterMap_resumed (validators : Validators) (record : Dict) (r : Running) :
    (r.resumed validators record).filterMap Entry.call? = [] := by
  unfold Running.resumed
  cases r.failure? validators record <;> by_cases hround : r.round validators = 0 <;>
    simp [hround, Entry.call?]

/-- **A field asks its custom validator exactly when it owes the call.** -/
theorem Prepared.call?_stage (record : Dict) (p : Prepared) :
    Running.call? record ⟨p, p.stage record⟩ = p.call? record := by
  unfold Prepared.call? stage Rule.brokenReport?
  by_cases he : (p.value record).isEmpty = true
  · simp only [he, if_true, Bool.true_eq_false, false_and, if_false]
    by_cases hr : p.rule.required = true
    · rw [if_pos hr]
      rfl
    · rw [if_neg hr]
      cases p.rule.validate <;> rfl
  · simp only [he, Bool.false_eq_true, if_false, true_and]
    cases hb : Constraint.firstBroken? (p.value record).asText (p.rule.constraints p.pattern) with
    | some c =>
        have hbroken : ¬ ∀ c ∈ p.rule.constraints p.pattern,
            c.holds (p.value record).asText = true := by
          intro hall
          have hc := List.find?_some hb
          simp [hall c (List.mem_of_find?_eq_some hb)] at hc
        rw [if_neg hbroken]
        rfl
    | none =>
        have hall : ∀ c ∈ p.rule.constraints p.pattern,
            c.holds (p.value record).asText = true := by
          simpa using List.find?_eq_none.mp hb
        rw [if_pos hall]
        cases p.rule.validate <;> rfl

/-- The calls are those that the fields owe: each field's own call once, if it owes one, and no
others. -/
structure CalledFor (record : Dict) (prepared : List Prepared) (calls : List Call) : Prop where
  own : ∀ p ∈ prepared, calls.filter (fun c => c.field == p.field) = (p.call? record).toList
  others : ∀ c ∈ calls, c.field ∈ prepared.map (·.field)

namespace Validation

open Prepared

variable {validators : Validators} {data : Value} {record : Dict} {prepared : List Prepared}

theorem calledFor_of_perm {calls : List Call} (hnodup : (prepared.map (·.field)).Nodup)
    (h : calls.Perm (prepared.filterMap (·.call? record))) : CalledFor record prepared calls where
  own := by
    intro p hp
    have hperm := h.filter fun c => c.field == p.field
    rw [filter_given (fun _ _ => field_of_call) hnodup hp] at hperm
    cases hc : p.call? record with
    | none => exact List.Perm.eq_nil (by simpa [hc] using hperm)
    | some c => exact List.perm_singleton.mp (by simpa [hc] using hperm)
  others := by
    intro c hc
    obtain ⟨p, hp, hpc⟩ := List.mem_filterMap.mp (h.subset hc)
    exact List.mem_map.mpr ⟨p, hp, (field_of_call hpc).symm⟩

/-- Every field that starts makes its call, in the order of the rules, whether or not the run ends
in a fault. -/
theorem callsMade_run_eq (validators : Validators) (hdata : data.record = .ok record)
    (prepared : List Prepared) :
    (run validators data prepared).callsMade =
      (startAll data prepared).1.filterMap (Running.call? record) := by
  rw [run, hdata]
  generalize startAll data prepared = started
  obtain ⟨running, fault⟩ := started
  have hstarted : (running.flatMap fun r => r.started validators record).filterMap Entry.call? =
      running.filterMap (Running.call? record) := by
    simp only [List.filterMap_flatMap, Running.filterMap_started]
    exact (List.filterMap_eq_flatMap_toList _ _).symm
  have hresumed (settled : List Running) :
      (settled.flatMap fun r => r.resumed validators record).filterMap Entry.call? = [] := by
    simp [List.filterMap_flatMap, Running.filterMap_resumed]
  cases fault with
  | some e => exact hstarted
  | none =>
      show List.filterMap Entry.call? (_ ++ _ ++ [Entry.event _]) = _
      rw [List.filterMap_append, List.filterMap_append]
      exact (congrArg₂ _ (congrArg₂ _ hstarted (hresumed _)) rfl).trans (by simp [Entry.call?])

/-- A validation that ends with a result makes the calls that the fields owe. -/
theorem callsMade_run (hdata : data.record = .ok record)
    (hc : ∀ p ∈ prepared, p.rule.Compiled p.pattern)
    (hd : ∀ p ∈ prepared, p.IsDecided record) :
    (run validators data prepared).callsMade = prepared.filterMap (·.call? record) := by
  rw [callsMade_run_eq validators hdata, startAll_eq hdata hc hd, List.filterMap_map]
  exact List.filterMap_congr fun p _ => call?_stage record p

end Validation

end FieldRules
