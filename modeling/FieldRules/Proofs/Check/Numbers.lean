import FieldRules.Proofs.Check.Constraint
import FieldRules.Proofs.Number.Numeral

/-!
# Proofs — Numbers

How the checks see a number. Both of them look at the double that is read off the text of the
value, so what counts is how much of a number survives the way through its text: of a finite
double everything but the sign of a zero (`exists_parse?_asText`). Bounds look at places on the
number line only (`rangeFailure_of_place`), where the two zeros are one, so a double is compared
with its bounds as it is (`run_float`).
-/

namespace FieldRules

open Number (Numeric)

/-! ## Places -/

namespace Number

variable {x y : Double}

/-- The signed count of units of an integer. -/
theorem place?_integer {n : Int} (h : Representable (n.natAbs * unitsPerOne)) :
    (Double.finite (decide (n < 0)) _ h).place? = some (.at (n * unitsPerOne)) := by
  by_cases hn : n < 0
  · have habs : (n.natAbs : Int) = -n := by omega
    simp only [Double.place?, hn, decide_true, Int.natCast_mul, habs, Int.neg_mul, Int.neg_neg]
  · have habs : (n.natAbs : Int) = n := by omega
    simp only [Double.place?, hn, decide_false, Int.natCast_mul, habs]

theorem representable_one : Representable 1 := by
  decide +kernel

/-- A double without a fraction lies where its integer does. -/
theorem place?_of_truncate {n : Int} (htruncate : x.truncate? = some n)
    (hintegral : x.isIntegral = true) : x.place? = some (.at (n * unitsPerOne)) := by
  cases x with
  | nan => cases hintegral
  | infinite negative => cases hintegral
  | finite negative units fits =>
      have hmod : units % unitsPerOne = 0 := by simpa [Double.isIntegral] using hintegral
      have hunits : ((units / unitsPerOne : Nat) : Int) * (unitsPerOne : Nat) = units := by
        exact_mod_cast Nat.div_mul_cancel (Nat.dvd_of_mod_eq_zero hmod)
      obtain rfl := Option.some.inj htruncate
      cases negative with
      | true =>
          simp only [Double.place?, if_true, Int.neg_mul]
          rw [hunits]
      | false =>
          simp only [Double.place?, Bool.false_eq_true, if_false]
          rw [hunits]

/-- A finite double lies among the numbers. -/
theorem exists_place (hfinite : x.isFinite = true) : ∃ units, x.place? = some (.at units) := by
  cases x with
  | nan => cases hfinite
  | infinite negative => cases hfinite
  | finite negative units fits => cases negative <;> exact ⟨_, rfl⟩

theorem equal_of_place (hfinite : x.isFinite = true) (h : y.place? = x.place?) :
    (Numeric.double y).equal (.double x) = true := by
  obtain ⟨units, hunits⟩ := exists_place hfinite
  simp [Numeric.equal, Numeric.place?, h, hunits]

/-- **A finite double is read off its text where it lies**: the same double, but that a zero
loses its sign. -/
theorem exists_parse?_asText (hfinite : x.isFinite = true) :
    ∃ y, parse? (Value.asText (.float x)).toList = .ok (some y) ∧ y.place? = x.place? := by
  by_cases hintegral : x.isIntegral = true
  · obtain ⟨n, htruncate, hn⟩ := exists_integer hfinite hintegral
    have htext : Value.asText (.float x) = integerText n := by
      simp only [Value.asText, htruncate, hintegral, if_true]
    refine ⟨_, ?_, (place?_integer hn).trans (place?_of_truncate htruncate hintegral).symm⟩
    rw [htext, integerText, String.toList_ofList, parse?_integerChars hn]
  · refine ⟨x, ?_, rfl⟩
    rw [toList_asText_float (by simpa using hintegral), parse?_chars hfinite]

end Number

/-! ## Checks on numbers -/

namespace Check

variable {v : Value} {x y : Number.Double}

theorem boundFailure_eq_none {α : Type} {write : α → Except Number.Excess String}
    {bound : Option α} {broken : α → Bool} {report : String → Option Failure}
    (hreport : ∀ text, report text ≠ none) :
    boundFailure write bound broken report = .ok none ↔ ∀ b ∈ bound, broken b = false := by
  cases bound with
  | none => simp [boundFailure]
  | some b =>
      cases hb : broken b with
      | false => simp [boundFailure, hb]
      | true =>
          simp only [boundFailure, hb, if_true, Option.mem_some_iff, forall_eq', reduceCtorEq,
            iff_false]
          cases write b with
          | error e => exact nofun
          | ok text => exact fun h => hreport text (Except.ok.inj h)

/-- **The bounds of a range are included.** -/
theorem rangeFailure_eq_none {min max : Option Numeric} :
    rangeFailure min max x = .ok none ↔
      (∀ b ∈ min, (Numeric.double x).below b = false) ∧
        ∀ b ∈ max, b.below (.double x) = false := by
  rw [rangeFailure, orElse_eq_none]
  exact (boundFailure_eq_none fun _ => Option.some_ne_none _).and
    (boundFailure_eq_none fun _ => Option.some_ne_none _)

/-- A failure that shows another number. -/
def showing (x : Number.Double) (f : Failure) : Failure :=
  { f with actual := .float x }

theorem map_boundFailure {α : Type} (write : α → Except Number.Excess String) (bound : Option α)
    (broken : α → Bool) (report : String → Option Failure) (f : Failure → Failure) :
    (boundFailure write bound broken report).map (Option.map f) =
      boundFailure write bound broken fun text => (report text).map f := by
  cases bound with
  | none => rfl
  | some b =>
      simp only [boundFailure]
      split
      · cases write b <;> rfl
      · rfl

/-- **Bounds look at the place of a number only**; the report shows the number as it came. -/
theorem rangeFailure_of_place (h : y.place? = x.place?) (min max : Option Numeric) :
    rangeFailure min max y = (rangeFailure min max x).map (Option.map (showing y)) := by
  have hbelow (b : Numeric) : (Numeric.double y).below b = (Numeric.double x).below b := by
    simp only [Numeric.below, Numeric.place?, h]
  have habove (b : Numeric) : b.below (.double y) = b.below (.double x) := by
    simp only [Numeric.below, Numeric.place?, h]
  simp only [rangeFailure, map_orElse, map_boundFailure, hbelow, habove]
  rfl

/-- A value whose text is read as a number is a number. -/
theorem run_number_of_parse? (hv : v.isWritable = true)
    (hp : Number.parse? v.asText.toList = .ok (some y)) : run .number v = .ok none := by
  simp only [run, Constraint.onText_of_isWritable hv, numberFailure, numberOf, hp]
  rfl

/-- The number that is compared with the bounds is the one that is read. -/
theorem run_range_of_parse? (hv : v.isWritable = true)
    (hp : Number.parse? v.asText.toList = .ok (some y)) (min max : Option Numeric) :
    run (.range min max) v = rangeFailure min max y := by
  simp only [run, Constraint.onText_of_isWritable hv, textRangeFailure, numberOf, hp]
  rfl

/-- **A finite double goes through its text unharmed.** What is read off its text is equal to it;
so it passes as a number, and bounds are compared with the double itself: a range reports what it
would report of the double, and nothing just when the double lies between the bounds. -/
theorem run_float (hfinite : x.isFinite = true) :
    ∃ y, Number.parse? (Value.asText (.float x)).toList = .ok (some y) ∧
      (Numeric.double y).equal (.double x) = true ∧
      run .number (.float x) = .ok none ∧
      ∀ min max,
        run (.range min max) (.float x) =
            (rangeFailure min max x).map (Option.map (showing y)) ∧
          (run (.range min max) (.float x) = .ok none ↔
            (∀ b ∈ min, (Numeric.double x).below b = false) ∧
              ∀ b ∈ max, b.below (.double x) = false) := by
  obtain ⟨y, hp, hplace⟩ := Number.exists_parse?_asText hfinite
  refine ⟨y, hp, Number.equal_of_place hfinite hplace, run_number_of_parse? rfl hp,
    fun min max => ?_⟩
  have hrun := run_range_of_parse? (v := .float x) rfl hp min max
  rw [hrun]
  refine ⟨rangeFailure_of_place hplace min max, ?_⟩
  rw [rangeFailure_of_place hplace min max, ← rangeFailure_eq_none]
  cases rangeFailure min max x with
  | error e => exact iff_of_false nofun nofun
  | ok f? => cases f? <;> simp [Except.map]

/-- The smallest positive double, written with an exponent, is a number and not below zero. -/
theorem run_float_smallest :
    (Value.asText (.float (.finite false 1 Number.representable_one))).toList =
        "5e-324".toList ∧
      run .number (.float (.finite false 1 Number.representable_one)) = .ok none ∧
      run (.range (some (.int 0)) none) (.float (.finite false 1 Number.representable_one)) =
        .ok none := by
  obtain ⟨y, -, -, hnumber, hrange⟩ :=
    run_float (x := .finite false 1 Number.representable_one) rfl
  have hbelow : (Numeric.double (.finite false 1 Number.representable_one)).below (.int 0) =
      false := by
    decide +kernel
  exact ⟨by decide +kernel, hnumber, (hrange _ _).2.mpr ⟨by simpa using hbelow, by simp⟩⟩

end Check
end FieldRules
