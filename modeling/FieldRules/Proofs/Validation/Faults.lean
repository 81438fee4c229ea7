import FieldRules.Proofs.Failing
import FieldRules.Proofs.Rule.Normalization
import FieldRules.Proofs.Validation.Fields

/-!
# Proofs — Faults

In which faults preparing rules and running them can end. Rules are read and checks are run with no
other fault than a number that is too large or too long; a pattern that is refused is found while
the rules are prepared (`Prepared.failsWith_make`), and prepared rules cannot end in such a fault
any more, whatever the record and the custom validators (`Validation.failsWith_run`).
-/

namespace FieldRules

open Fault (IsExcess)
open Number (Numeric)

/-! ## Reading rules -/

theorem Value.failsWith_optionalBound {α : Type} {read : Value → Except Fault (Option α)}
    (hread : ∀ v, FailsWith IsExcess (read v)) (v? : Option Value) :
    FailsWith IsExcess (Value.optionalBound read v?) := by
  cases v? with
  | none => exact .ok none
  | some v => exact hread v

theorem Value.failsWith_length? (v : Value) : FailsWith IsExcess v.length? := by
  unfold length?
  split
  case h_5 => exact failsWith_liftExcess _
  all_goals exact .ok _

theorem Value.failsWith_limit? (v : Value) : FailsWith IsExcess v.limit? := by
  unfold limit?
  split
  case h_5 => exact failsWith_liftExcess _
  all_goals exact .ok _

namespace Rule

theorem failsWith_ofDict (d : Dict) : FailsWith IsExcess (ofDict d) := by
  refine .bind ?_ fun type _ => .bind (Value.failsWith_optionalBound Value.failsWith_length? _)
    fun min _ => .bind (Value.failsWith_optionalBound Value.failsWith_length? _) fun max _ =>
    .bind (Value.failsWith_optionalBound Value.failsWith_limit? _) fun minValue _ =>
    .bind (Value.failsWith_optionalBound Value.failsWith_limit? _) fun maxValue _ => .ok _
  unfold declaredType
  split
  · exact .ok none
  · exact failsWith_liftExcess _

theorem failsWith_readToken (cs : List Char) : FailsWith IsExcess (Token.read cs) := by
  simp only [Token.read]
  split
  case h_8 => exact (failsWith_liftExcess _).bind fun _ _ => .ok _
  case h_9 => exact (failsWith_liftExcess _).bind fun _ _ => .ok _
  case h_10 => exact (failsWith_liftExcess _).bind fun _ _ => .ok _
  case h_11 => exact (failsWith_liftExcess _).bind fun _ _ => .ok _
  case h_12 => exact (failsWith_liftExcess _).bind fun _ _ => .ok _
  case h_13 => exact (failsWith_liftExcess _).bind fun _ _ => .ok _
  all_goals exact .ok _

theorem failsWith_applyTokens (tokens : List (List Char)) (r : Rule) :
    FailsWith IsExcess (applyTokens tokens r).outcome := by
  induction tokens generalizing r with
  | nil => exact .ok r
  | cons cs rest ih =>
      rw [outcome_applyTokens_cons]
      exact (failsWith_readToken cs).bind fun token _ => ih _

/-- **Rules are read with no other fault** than a number past the limits. -/
theorem failsWith_normalize (raw : Value) : FailsWith IsExcess (normalize raw).outcome := by
  unfold normalize
  split
  · split
    · exact .ok _
    · exact failsWith_ofDict _
    · exact .outcome_bind (failsWith_applyTokens _ _) fun _ _ => .ok _
    · exact .ok _
  · exact .ok _

end Rule

/-- A rule cannot be prepared: a number is past the limits, or a pattern is refused. -/
inductive Fault.IsOfRules : Fault → Prop
  | excess (e : Number.Excess) : IsOfRules (.excess e)
  | pattern (source cause : String) (field : Value) (origin : String) :
      IsOfRules (.ruleConfiguration (UsageError.invalidPattern source cause field origin))
  | scriptClash : IsOfRules (.refusal "ASCII and UNICODE flags are incompatible")

open Fault (IsOfRules)

theorem Fault.IsExcess.isOfRules {e : Fault} (h : e.IsExcess) : e.IsOfRules := by
  obtain ⟨e⟩ := h
  exact .excess e

theorem Rule.failsWith_compiledPattern (r : Rule) (field : Value) :
    FailsWith IsOfRules (r.compiledPattern field) := by
  unfold compiledPattern
  split
  · exact .ok none
  · exact .ok _
  · split
    · exact .ok _
    · exact .error (.excess _)
    · exact .error .scriptClash
    · exact .error (.pattern _ _ _ _)

/-- **A rule is prepared with no other fault** than a number past the limits or a pattern that is
refused. -/
theorem Prepared.failsWith_make (key raw : Value) : FailsWith IsOfRules (make key raw).outcome :=
  .outcome_bind ((Rule.failsWith_normalize raw).mono fun _ h => h.isOfRules) fun r _ =>
    .outcome_bind (r.failsWith_compiledPattern _) fun _ _ => .ok _

/-- The fault of rules that cannot all be prepared is that of one of them. -/
theorem Prepared.exists_of_all {entries : Rules} {e : Fault}
    (h : (all entries).outcome = .error e) :
    ∃ x ∈ entries, (make x.1 x.2).outcome = .error e := by
  induction entries with
  | nil => cases h
  | cons x rest ih =>
      rcases Traced.outcome_bind_eq_error.mp h with hmake | ⟨p, -, h⟩
      · exact ⟨x, List.mem_cons_self, hmake⟩
      rcases Traced.outcome_bind_eq_error.mp h with hrest | ⟨others, -, h⟩
      · obtain ⟨y, hy, hmake⟩ := ih hrest
        exact ⟨y, List.mem_cons_of_mem x hy, hmake⟩
      · cases h

/-! ## What is past the limits -/

namespace Rule

/-- A repetition in the pattern of the rule is past the limits. -/
def PatternExceeds (r : Rule) : Prop :=
  ∃ source e, r.pattern = some (.source source) ∧ Pattern.compile source = .error (.excess e)

theorem patternExceeds_of_compiledPattern {r : Rule} {field : Value} {e : Number.Excess}
    (h : r.compiledPattern field = .error (.excess e)) : r.PatternExceeds := by
  unfold compiledPattern at h
  split at h
  · cases h
  · cases h
  · next source hpattern =>
      split at h
      · cases h
      · next e' hcompile => exact ⟨source, e', hpattern, hcompile⟩
      · cases h
      · cases h

/-- A bound in the rule, its type, or a repetition in its pattern is past the limits. -/
def HoldsExcess (raw : Value) : Prop :=
  Exceeds raw ∨ ∃ r, (normalize raw).outcome = .ok r ∧ r.PatternExceeds

end Rule

theorem Prepared.holdsExcess_of_make {key raw : Value} {e : Number.Excess}
    (h : (make key raw).outcome = .error (.excess e)) : Rule.HoldsExcess raw := by
  rcases Traced.outcome_bind_eq_error.mp h with hnormal | ⟨r, hr, h⟩
  · refine .inl (Classical.byContradiction fun hsmall => ?_)
    obtain ⟨r, hr⟩ := Rule.normalize_eq_ok.mpr hsmall
    rw [hr] at hnormal
    cases hnormal
  · rcases Traced.outcome_bind_eq_error.mp h with hpattern | ⟨pattern, -, h⟩
    · exact .inr ⟨r, hr, Rule.patternExceeds_of_compiledPattern hpattern⟩
    · cases h

/-! ## Running checks -/

/-- The built-in checks halt on a value: the value, or a bound that it breaks, is too long to be
written, or its text is too large to be read. -/
inductive Value.Halts (v : Value) : Fault → Prop
  | writing : Halts v (.excess .writing)
  | magnitude : Number.TooLarge v.asText.toList → Halts v (.excess .magnitude)

variable {v : Value}

theorem Value.failsWith_isEmpty? (v : Value) : FailsWith v.Halts (liftExcess v.isEmpty?) := by
  unfold isEmpty? ifWritable
  split
  · exact .ok _
  · exact .error .writing

namespace Check

theorem failsWith_onText {test : String → Except Fault (Option Failure)}
    (htest : FailsWith v.Halts (test v.asText)) : FailsWith v.Halts (onText test v) := by
  unfold onText Value.asText? Value.ifWritable
  split
  · exact htest
  · exact .error .writing

theorem failsWith_boundFailure {α : Type} {write : α → Except Number.Excess String}
    (hwrite : ∀ b e, write b = .error e → e = .writing) (bound : Option α) (broken : α → Bool)
    (report : String → Option Failure) :
    FailsWith v.Halts (boundFailure write bound broken report) := by
  cases bound with
  | none => exact .ok none
  | some b =>
      simp only [boundFailure]
      split
      · refine .liftExcess fun e he => ?_
        cases hb : write b with
        | error e' =>
            rw [hb] at he
            obtain rfl : e' = e := Except.error.inj he
            rw [hwrite b e' hb]
            exact .writing
        | ok text =>
            rw [hb] at he
            cases he
      · exact .ok none

theorem eq_writing_of_integerText? (n : Int) (e : Number.Excess)
    (h : Number.integerText? n = .error e) : e = .writing := by
  unfold Number.integerText? at h
  split at h
  · cases h
  · exact (Except.error.inj h).symm

theorem eq_writing_of_text? (a : Numeric) (e : Number.Excess) (h : a.text? = .error e) :
    e = .writing := by
  unfold Numeric.text? at h
  split at h
  · cases h
  · exact (Except.error.inj h).symm

theorem failsWith_orElse {P : Fault → Prop} {first second : Except Fault (Option Failure)}
    (hfirst : FailsWith P first) (hsecond : FailsWith P second) :
    FailsWith P (orElse first second) := by
  unfold orElse
  split
  · exact hsecond
  · exact hfirst

theorem failsWith_lengthFailure (min max : Option Int) (text : String) :
    FailsWith v.Halts (lengthFailure min max text) :=
  failsWith_orElse (failsWith_boundFailure eq_writing_of_integerText? _ _ _)
    (failsWith_boundFailure eq_writing_of_integerText? _ _ _)

theorem failsWith_numberOf (v : Value) : FailsWith v.Halts (numberOf v.asText) := by
  refine .liftExcess fun e he => ?_
  obtain ⟨rfl, hlarge⟩ := Number.parse?_eq_error he
  exact .magnitude hlarge

theorem failsWith_numberFailure (v : Value) : FailsWith v.Halts (numberFailure v.asText) := by
  refine (failsWith_numberOf v).bind fun x? _ => ?_
  cases x? <;> exact .ok _

theorem failsWith_textRangeFailure (min max : Option Numeric) (v : Value) :
    FailsWith v.Halts (textRangeFailure min max v.asText) := by
  refine (failsWith_numberOf v).bind fun x? _ => ?_
  cases x? with
  | none => exact .ok none
  | some x =>
      exact failsWith_orElse (failsWith_boundFailure eq_writing_of_text? _ _ _)
        (failsWith_boundFailure eq_writing_of_text? _ _ _)

mutual

/-- **Checks halt only on values** that are too long to be written or too large to be read, and on
bounds that are too long to be written. -/
theorem failsWith_run : ∀ (c : Check) (v : Value), FailsWith v.Halts (c.run v)
  | .required, v => by
    rw [run]
    refine v.failsWith_isEmpty?.bind fun empty _ => ?_
    split <;> exact .ok _
  | .email, v => by
    rw [run]
    exact failsWith_onText (.ok _)
  | .url, v => by
    rw [run]
    exact failsWith_onText (.ok _)
  | .number, v => by
    rw [run]
    exact failsWith_onText (failsWith_numberFailure v)
  | .length min max, v => by
    rw [run]
    exact failsWith_onText (failsWith_lengthFailure min max _)
  | .range min max, v => by
    rw [run]
    exact failsWith_onText (failsWith_textRangeFailure min max v)
  | .pattern p, v => by
    rw [run]
    exact failsWith_onText (.ok _)
  | .allOf checks, v => by
    rw [run]
    exact failsWith_runAll checks v
  | .withMessage check message, v => by
    rw [run]
    split
    · exact .ok _
    · exact failsWith_run check v

theorem failsWith_runAll : ∀ (cs : List Check) (v : Value), FailsWith v.Halts (runAll cs v)
  | [], _ => by
    rw [runAll]
    exact .ok none
  | c :: cs, v => by
    rw [runAll]
    split
    · exact failsWith_runAll cs v
    · exact failsWith_run c v

end

end Check

theorem Rule.failsWith_checkValue {r : Rule} {pattern : Option Pattern}
    (hcompiled : r.Compiled pattern) (field : String) (v : Value) :
    FailsWith v.Halts (r.checkValue field pattern v) := by
  have hrequired : FailsWith v.Halts (r.requiredViolation field v) := by
    unfold requiredViolation
    split
    · refine (Check.failsWith_run _ _).bind fun f? _ => ?_
      cases f? <;> exact .ok _
    · exact .ok none
  refine hrequired.bind fun violation? _ => ?_
  cases violation? with
  | some violation => exact .ok _
  | none =>
      refine v.failsWith_isEmpty?.bind fun empty _ => ?_
      split
      · exact .ok none
      · rw [validator_of_compiled hcompiled]
        refine (Check.failsWith_run _ _).bind fun f? _ => ?_
        cases f? <;> exact .ok _

/-! ## Running prepared rules -/

/-- Prepared rules reach no verdict: a number is past the limits, or the record is no mapping. -/
inductive Fault.IsOfRecord : Fault → Prop
  | excess (e : Number.Excess) : IsOfRecord (.excess e)
  | notMapping : IsOfRecord .notMapping

open Fault (IsOfRecord)

theorem Value.Halts.isOfRecord {e : Fault} (h : v.Halts e) : e.IsOfRecord := by
  cases h <;> exact .excess _

theorem Value.failsWith_record (data : Value) : FailsWith IsOfRecord data.record := by
  unfold record
  split
  · split
    · exact .ok _
    · exact .error .notMapping
  · exact .ok []

/-- On a mapping a field fails to start when its checks halt on its value, and only then. -/
theorem Prepared.failsWith_start_of_record {p : Prepared} {data : Value} {record : Dict}
    (hcompiled : p.rule.Compiled p.pattern) (hdata : data.record = .ok record) :
    FailsWith (p.value record).Halts (p.start data) := by
  unfold start
  rw [hdata]
  refine .bind (.ok record) fun record' hrecord => ?_
  obtain rfl := Except.ok.inj hrecord
  refine .bind (Rule.failsWith_checkValue hcompiled _ _) fun violation? _ => ?_
  cases violation? with
  | some violation => exact .ok _
  | none =>
      dsimp only
      split <;> exact .ok _

theorem Prepared.failsWith_start {p : Prepared} (hcompiled : p.rule.Compiled p.pattern)
    (data : Value) : FailsWith IsOfRecord (p.start data) := by
  cases hdata : data.record with
  | error e =>
      unfold start
      rw [hdata]
      exact .error (data.failsWith_record e hdata)
  | ok record =>
      exact (failsWith_start_of_record hcompiled hdata).mono fun _ h => h.isOfRecord

/-- The fault of fields that cannot all start is that of one of them. -/
theorem Validation.exists_of_startAll {data : Value} {prepared : List Prepared} {e : Fault}
    (h : (startAll data prepared).2 = some e) : ∃ p ∈ prepared, p.start data = .error e := by
  induction prepared with
  | nil => cases h
  | cons p rest ih =>
      simp only [startAll] at h
      split at h
      · obtain ⟨q, hq, he⟩ := ih h
        exact ⟨q, List.mem_cons_of_mem _ hq, he⟩
      · next fault hfault =>
          refine ⟨p, List.mem_cons_self, ?_⟩
          rw [hfault, Option.some.inj h]

/-- The fault of a run is that of a field that cannot start. -/
theorem Validation.exists_of_run {validators : Validators} {data : Value} {prepared : List Prepared}
    {e : Fault} (h : (run validators data prepared).outcome = .error e) :
    ∃ p ∈ prepared, p.start data = .error e := by
  simp only [run] at h
  split at h
  · next fault hfault =>
      obtain rfl : fault = e := Except.error.inj h
      exact exists_of_startAll hfault
  · cases h

/-- **Prepared rules run with no other fault** than a number past the limits, on any mapping. -/
theorem Validation.failsWith_run {prepared : List Prepared}
    (hcompiled : ∀ p ∈ prepared, p.rule.Compiled p.pattern) (validators : Validators)
    (data : Value) : FailsWith IsOfRecord (run validators data prepared).outcome := by
  intro e he
  obtain ⟨p, hp, hstart⟩ := exists_of_run he
  exact Prepared.failsWith_start (hcompiled p hp) data e hstart

end FieldRules
