import FieldRules.Proofs.Number.Excess
import FieldRules.Validation.Violation

/-!
# Proofs — Constraint

What a rule asks of a value that is not blank, stated on the text of the value and apart from
the checks that are run: a list of constraints, each of which holds, fails with a report of its
own, or stops the check because a number is too large to be read or a bound too long to be
written. `run_check` ties a single check to its constraint; everything about chains of checks
goes through it.
-/

namespace FieldRules

open Number (Numeric)

/-- A condition on the text of a value. -/
inductive Constraint where
  | email
  | url
  | number
  | minLength (n : Int)
  | maxLength (n : Int)
  | minValue (b : Numeric)
  | maxValue (b : Numeric)
  | pattern (p : Pattern)

namespace Constraint

/-! ## Reports -/

/-- The key under which a rule may bring a message for the constraint. -/
def key : Constraint → String
  | .email => "email"
  | .url => "url"
  | .number => "number"
  | .minLength _ => "min"
  | .maxLength _ => "max"
  | .minValue _ => "min_value"
  | .maxValue _ => "max_value"
  | .pattern _ => "pattern"

/-- The name under which a failure is reported. -/
def name : Constraint → String
  | .email => "email"
  | .url => "url"
  | .number => "number"
  | .minLength n => "min_length[" ++ Number.integerText n ++ "]"
  | .maxLength n => "max_length[" ++ Number.integerText n ++ "]"
  | .minValue b => "min_value[" ++ b.text ++ "]"
  | .maxValue b => "max_value[" ++ b.text ++ "]"
  | .pattern p => "pattern[" ++ p.source ++ "]"

/-- The code under which a failure is reported. -/
def code : Constraint → ErrorCode
  | .email => .invalidEmail
  | .url => .invalidUrl
  | .number => .invalidNumber
  | .minLength _ => .outOfRange
  | .maxLength _ => .outOfRange
  | .minValue _ => .outOfRange
  | .maxValue _ => .outOfRange
  | .pattern _ => .invalidFormat

/-- The message of a failure, where the rule brings none. -/
def message : Constraint → String
  | .email => "Invalid email address"
  | .url => "Invalid URL"
  | .number => "Must be a number"
  | .minLength n => "Must be at least " ++ Number.integerText n ++ " characters"
  | .maxLength n => "Must be at most " ++ Number.integerText n ++ " characters"
  | .minValue b => "Must be at least " ++ b.text
  | .maxValue b => "Must be at most " ++ b.text
  | .pattern _ => "Invalid format"

theorem isEmpty_append {s : String} (t : String) (h : s.isEmpty = false) :
    (s ++ t).isEmpty = false := by
  simp_all

theorem name_isEmpty (c : Constraint) : c.name.isEmpty = false := by
  cases c with
  | email => rfl
  | url => rfl
  | number => rfl
  | minLength n => exact isEmpty_append _ (isEmpty_append _ rfl)
  | maxLength n => exact isEmpty_append _ (isEmpty_append _ rfl)
  | minValue b => exact isEmpty_append _ (isEmpty_append _ rfl)
  | maxValue b => exact isEmpty_append _ (isEmpty_append _ rfl)
  | pattern p => exact isEmpty_append _ (isEmpty_append _ rfl)

theorem message_isEmpty (c : Constraint) : c.message.isEmpty = false := by
  cases c with
  | email => rfl
  | url => rfl
  | number => rfl
  | minLength n => exact isEmpty_append _ (isEmpty_append _ rfl)
  | maxLength n => exact isEmpty_append _ (isEmpty_append _ rfl)
  | minValue b => exact isEmpty_append _ rfl
  | maxValue b => exact isEmpty_append _ rfl
  | pattern p => rfl

/-! ## Meaning -/

/-- The text satisfies the constraint. The bounds are included, and a text that denotes no number
satisfies every bound on numbers. -/
def holds (text : String) : Constraint → Bool
  | .email => Address.Email.accepts text.toList
  | .url => Address.Url.accepts text.toList
  | .number =>
    match Number.parse? text.toList with
    | .ok (some _) => true
    | _ => false
  | .minLength n => n ≤ (text.toList.length : Int)
  | .maxLength n => (text.toList.length : Int) ≤ n
  | .minValue b =>
    match Number.parse? text.toList with
    | .ok (some x) => !(Numeric.double x).below b
    | _ => true
  | .maxValue b =>
    match Number.parse? text.toList with
    | .ok (some x) => !b.below (.double x)
    | _ => true
  | .pattern p => p.foundIn text

/-- The text looks like a number and is too large to be one. -/
def Unreadable (text : String) : Prop :=
  Number.TooLarge text.toList

/-- No verdict is reached on the text: it has to be read as a number and cannot be, or the
constraint fails and its bound is too long for the report. -/
def Stops (text : String) : Constraint → Prop
  | .number => Unreadable text
  | .minLength n => holds text (.minLength n) = false ∧ Number.isWritable n = false
  | .maxLength n => holds text (.maxLength n) = false ∧ Number.isWritable n = false
  | .minValue b => Unreadable text ∨ holds text (.minValue b) = false ∧ b.isWritable = false
  | .maxValue b => Unreadable text ∨ holds text (.maxValue b) = false ∧ b.isWritable = false
  | _ => False

/-- The check for the constraint. -/
def check : Constraint → Check
  | .email => .email
  | .url => .url
  | .number => .number
  | .minLength n => .length (some n) none
  | .maxLength n => .length none (some n)
  | .minValue b => .range (some b) none
  | .maxValue b => .range none (some b)
  | .pattern p => .pattern p

/-- The failure is the one that the constraint reports. -/
structure ReportedBy (c : Constraint) (f : Failure) : Prop where
  constraint : f.constraint = c.name
  code : f.code = c.code
  message : f.message = .text c.message

/-- How a check for the constraint ends: without a verdict, well, or with a failure. -/
inductive Ends (c : Constraint) (text : String) (reported : Failure → Prop) :
    Except Fault (Option Failure) → Prop
  | stopped (e : Fault) : c.Stops text → Ends c text reported (.error e)
  | held : ¬ c.Stops text → c.holds text = true → Ends c text reported (.ok none)
  | failed (f : Failure) : ¬ c.Stops text → c.holds text = false → reported f →
      Ends c text reported (.ok (some f))

/-! ## Single checks -/

variable {text : String} {v : Value} {reported : Failure → Prop}

theorem asText?_of_isWritable (h : v.isWritable = true) : v.asText? = .ok v.asText := by
  simp [Value.asText?, Value.ifWritable, h]

/-- On a value that can be written, a check on the text is a test of that text. -/
theorem onText_of_isWritable (h : v.isWritable = true)
    (test : String → Except Fault (Option Failure)) : Check.onText test v = test v.asText := by
  rw [Check.onText, asText?_of_isWritable h]
  rfl

/-- A constraint that is tested on the text itself always comes to a verdict. -/
theorem ends_test {c : Constraint} {f : Failure} (hstops : ¬ c.Stops text) (hf : reported f) :
    c.Ends text reported (.ok (if c.holds text then none else some f)) := by
  by_cases hh : c.holds text = true
  · rw [if_pos hh]
    exact .held hstops hh
  · rw [if_neg hh]
    exact .failed f hstops (Bool.eq_false_iff.mpr hh) hf

/-- **A broken bound**: the report is written, unless the bound is too long for it. -/
theorem ends_bound {α : Type} {c : Constraint} {write : α → Except Number.Excess String}
    {b : α} {broken : α → Bool} {report : String → Option Failure} {f : Failure}
    (plain : α → String) (short : α → Bool)
    (hwrite : write b = if short b then .ok (plain b) else .error .writing)
    (hreport : report (plain b) = some f) (hf : reported f)
    (hholds : c.holds text = !broken b)
    (hstops : c.Stops text ↔ c.holds text = false ∧ short b = false) :
    c.Ends text reported (Check.boundFailure write (some b) broken report) := by
  show c.Ends text reported (if broken b then liftExcess ((write b).map report) else .ok none)
  by_cases hb : broken b = true
  · have hh : c.holds text = false := by simp [hholds, hb]
    rw [if_pos hb, hwrite]
    by_cases hs : short b = true
    · have hr : liftExcess ((if short b then Except.ok (plain b) else .error .writing).map report)
          = .ok (some f) := by
        rw [if_pos hs]
        exact congrArg Except.ok hreport
      rw [hr]
      exact .failed f (by simp [hstops, hs]) hh hf
    · rw [if_neg hs]
      exact .stopped _ (by simp [hstops, hh, hs])
  · have hh : c.holds text = true := by simp [hholds, hb]
    rw [if_neg hb]
    exact .held (by simp [hstops, hh]) hh

theorem boundFailure_none {α : Type} (write : α → Except Number.Excess String) (broken : α → Bool)
    (report : String → Option Failure) :
    Check.boundFailure write none broken report = .ok none := rfl

theorem readable_of_parse {x? : Option Number.Double}
    (hp : Number.parse? text.toList = .ok x?) : ¬ Unreadable text :=
  Number.parse?_eq_ok.mp ⟨x?, hp⟩

theorem unreadable_of_parse {e : Number.Excess} (hp : Number.parse? text.toList = .error e) :
    Unreadable text := by
  refine Classical.byContradiction fun hreadable => ?_
  obtain ⟨x?, hx⟩ := Number.parse?_eq_ok.mpr hreadable
  rw [hp] at hx
  cases hx

/-- Bounds on numbers are looked at only when the text denotes one. -/
theorem ends_range {c : Constraint} {min max : Option Numeric}
    (hread : Unreadable text → c.Stops text)
    (hskip : Number.parse? text.toList = .ok none → ¬ c.Stops text ∧ c.holds text = true)
    (hbound : ∀ x, Number.parse? text.toList = .ok (some x) →
      c.Ends text reported (Check.rangeFailure min max x)) :
    c.Ends text reported (Check.textRangeFailure min max text) := by
  rw [Check.textRangeFailure, Check.numberOf]
  cases hp : Number.parse? text.toList with
  | error e => exact .stopped _ (hread (unreadable_of_parse hp))
  | ok x? =>
      cases x? with
      | none => exact .held (hskip hp).1 (hskip hp).2
      | some x => exact hbound x hp

/-- **A single check ends as its constraint says.** -/
theorem run_check (h : v.isWritable = true) (c : Constraint) :
    c.Ends v.asText (ReportedBy c) (c.check.run v) := by
  cases c with
  | email =>
      simp only [check, Check.run, onText_of_isWritable h]
      exact ends_test id ⟨rfl, rfl, rfl⟩
  | url =>
      simp only [check, Check.run, onText_of_isWritable h]
      exact ends_test id ⟨rfl, rfl, rfl⟩
  | number =>
      simp only [check, Check.run, onText_of_isWritable h, Check.numberFailure, Check.numberOf]
      cases hp : Number.parse? v.asText.toList with
      | error e => exact .stopped _ (unreadable_of_parse hp)
      | ok x? =>
          have hs : ¬ Stops v.asText .number := readable_of_parse hp
          cases x? with
          | some x => exact .held hs (by simp [holds, hp])
          | none => exact .failed _ hs (by simp [holds, hp]) ⟨rfl, rfl, rfl⟩
  | minLength n =>
      simp only [check, Check.run, onText_of_isWritable h, Check.lengthFailure]
      rw [boundFailure_none, Check.orElse_none_right]
      exact ends_bound Number.integerText Number.isWritable rfl rfl
        ⟨rfl, rfl, rfl⟩ (by simp [holds, ← decide_not]) Iff.rfl
  | maxLength n =>
      simp only [check, Check.run, onText_of_isWritable h, Check.lengthFailure]
      rw [boundFailure_none, Check.orElse_none_left]
      exact ends_bound Number.integerText Number.isWritable rfl rfl
        ⟨rfl, rfl, rfl⟩ (by simp [holds, ← decide_not]) Iff.rfl
  | minValue b =>
      simp only [check, Check.run, onText_of_isWritable h]
      refine ends_range .inl (fun hp => ?_) (fun x hp => ?_)
      · have hh : holds v.asText (.minValue b) = true := by simp [holds, hp]
        exact ⟨by simp [Stops, readable_of_parse hp, hh], hh⟩
      · rw [Check.rangeFailure, boundFailure_none, Check.orElse_none_right]
        exact ends_bound Numeric.text Numeric.isWritable rfl rfl
          ⟨rfl, rfl, rfl⟩ (by simp [holds, hp]) (by simp [Stops, readable_of_parse hp])
  | maxValue b =>
      simp only [check, Check.run, onText_of_isWritable h]
      refine ends_range .inl (fun hp => ?_) (fun x hp => ?_)
      · have hh : holds v.asText (.maxValue b) = true := by simp [holds, hp]
        exact ⟨by simp [Stops, readable_of_parse hp, hh], hh⟩
      · rw [Check.rangeFailure, boundFailure_none, Check.orElse_none_left]
        exact ends_bound Numeric.text Numeric.isWritable rfl rfl
          ⟨rfl, rfl, rfl⟩ (by simp [holds, hp]) (by simp [Stops, readable_of_parse hp])
  | pattern p =>
      simp only [check, Check.run, onText_of_isWritable h]
      exact ends_test id ⟨rfl, rfl, rfl⟩

/-! ## Chains -/

/-- Some constraint of the chain stops, and all before it hold. -/
def StopsAmong (text : String) (cs : List Constraint) : Prop :=
  ∃ before c after, cs = before ++ c :: after ∧ (∀ d ∈ before, d.holds text = true) ∧
    c.Stops text

/-- The first constraint of the chain that does not hold. -/
def firstBroken? (text : String) (cs : List Constraint) : Option Constraint :=
  cs.find? fun c => !c.holds text

theorem not_stopsAmong_nil : ¬ StopsAmong text [] := by
  rintro ⟨before, c, after, h, -, -⟩
  simp at h

theorem stopsAmong_cons {c : Constraint} {cs : List Constraint} :
    StopsAmong text (c :: cs) ↔ c.Stops text ∨ c.holds text = true ∧ StopsAmong text cs := by
  constructor
  · rintro ⟨before, d, after, heq, hbefore, hd⟩
    cases before with
    | nil =>
        obtain ⟨rfl, rfl⟩ := List.cons.inj heq
        exact .inl hd
    | cons b before =>
        obtain ⟨rfl, rfl⟩ := List.cons.inj heq
        exact .inr ⟨hbefore c (by simp), before, d, after, rfl,
          fun d' hd' => hbefore d' (by simp [hd']), hd⟩
  · rintro (h | ⟨hc, before, d, after, rfl, hbefore, hd⟩)
    · exact ⟨[], c, cs, rfl, by simp, h⟩
    · refine ⟨c :: before, d, after, rfl, ?_, hd⟩
      intro d' hd'
      rcases List.mem_cons.mp hd' with rfl | hd'
      · exact hc
      · exact hbefore d' hd'

/-- How the checks for a chain of constraints end. -/
inductive ChainEnds (text : String) (cs : List Constraint)
    (reported : Constraint → Failure → Prop) : Except Fault (Option Failure) → Prop
  | stopped (e : Fault) : StopsAmong text cs → ChainEnds text cs reported (.error e)
  | held : ¬ StopsAmong text cs → firstBroken? text cs = none →
      ChainEnds text cs reported (.ok none)
  | failed (c : Constraint) (f : Failure) : ¬ StopsAmong text cs →
      firstBroken? text cs = some c → reported c f → ChainEnds text cs reported (.ok (some f))

/-- **The first failure decides**: checks that each end as their constraint says, one after the
other. -/
theorem chainEnds_runAll {reported : Constraint → Failure → Prop} {check : Constraint → Check}
    (hcheck : ∀ c : Constraint, c.Ends text (reported c) ((check c).run v)) (cs : List Constraint) :
    ChainEnds text cs reported (Check.runAll (cs.map check) v) := by
  induction cs with
  | nil => exact .held not_stopsAmong_nil rfl
  | cons c cs ih =>
      have hc := hcheck c
      rw [List.map_cons, Check.runAll]
      generalize Check.run (check c) v = outcome at hc
      cases hc with
      | stopped e hstop => exact .stopped e (stopsAmong_cons.mpr (.inl hstop))
      | failed f hstop hbroken hf =>
          refine .failed c f ?_ (by simp [firstBroken?, hbroken]) hf
          rw [stopsAmong_cons]
          rintro (h | ⟨h, -⟩)
          · exact hstop h
          · simp [hbroken] at h
      | held hstop hhold =>
          have hfirst : firstBroken? text (c :: cs) = firstBroken? text cs := by
            simp [firstBroken?, hhold]
          have hrest : StopsAmong text (c :: cs) ↔ StopsAmong text cs := by
            simp [stopsAmong_cons, hstop, hhold]
          show ChainEnds text (c :: cs) reported (Check.runAll (cs.map check) v)
          generalize Check.runAll (cs.map check) v = rest at ih
          cases ih with
          | stopped e h => exact .stopped e (hrest.mpr h)
          | held h hnone => exact .held (mt hrest.mp h) (hfirst.trans hnone)
          | failed d f h hsome hf => exact .failed d f (mt hrest.mp h) (hfirst.trans hsome) hf

end Constraint
end FieldRules
