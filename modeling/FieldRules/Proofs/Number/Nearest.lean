import FieldRules.Proofs.Number.Numeral

/-!
# Proofs — Nearest

The double nearest to an integer, for integers of any size. An integer that a double holds is
kept (`nearest_of_representable`), and every other one below the limit of the format moves by at
most one part in `2 ^ 53` (`nearest_error`), so that its order with respect to another integer
can change only if the two are that close (`not_roundsAcross`). The digits of an integer are read
as this double, and as no number from the limit on (`parse?_integerChars_eq`).
-/

namespace FieldRules.Number

open Decimal

namespace Double

/-! ## Rounding errors -/

/-- A quotient moves by at most one half. -/
theorem divNearest_error (num : Nat) {den : Nat} (hden : 0 < den) :
    2 * (divNearest num den * den) ≤ 2 * num + den ∧
      2 * num ≤ 2 * (divNearest num den * den) + den := by
  have hnum : num / den * den + num % den = num := by
    rw [Nat.mul_comm]
    exact Nat.div_add_mod num den
  have hrest : num % den < den := Nat.mod_lt num hden
  have hsucc : (num / den + 1) * den = num / den * den + den := Nat.succ_mul _ _
  simp only [divNearest]
  split
  · omega
  · split
    · rw [hsucc]
      omega
    · split
      · omega
      · rw [hsucc]
        omega

/-- Fifty-three significant bits are off by at most one part in two to the fifty-third. -/
theorem roundUnits_error {m s : Nat} (hm : m ≠ 0) (hs : m.log2 = 52 + s) :
    2 ^ 53 * roundUnits m 1 ≤ 2 ^ 53 * m + m ∧ 2 ^ 53 * m ≤ 2 ^ 53 * roundUnits m 1 + m := by
  have hlow : 2 ^ 52 * 2 ^ s ≤ m := by
    rw [← Nat.pow_add]
    exact ((Nat.log2_eq_iff hm).mp hs).1
  have herror := divNearest_error m (Nat.two_pow_pos s)
  rw [roundUnits_one hs]
  omega

/-! ## The nearest double -/

/-- A count with the sign of an integer. -/
def withSignOf (n : Int) (count : Nat) : Int :=
  if n < 0 then -(count : Int) else count

theorem withSignOf_neg (n : Int) {count : Nat} (h : n = 0 → count = 0) :
    withSignOf (-n) count = -withSignOf n count := by
  simp only [withSignOf]
  split <;> split <;> omega

theorem withSignOf_natAbs_mul (n : Int) (unit : Nat) :
    withSignOf n (n.natAbs * unit) = n * unit := by
  rcases Int.lt_or_le n 0 with hn | hn
  · have habs : (n.natAbs : Int) = -n := by omega
    rw [withSignOf, if_pos hn, Int.natCast_mul, habs, Int.neg_mul, Int.neg_neg]
  · have habs : (n.natAbs : Int) = n := by omega
    rw [withSignOf, if_neg (Int.not_lt.mpr hn), Int.natCast_mul, habs]

theorem natAbs_withSignOf_sub (n : Int) (a b : Nat) :
    (withSignOf n a - withSignOf n b).natAbs = ((a : Int) - b).natAbs := by
  simp only [withSignOf]
  split <;> omega

/-- Where the double nearest to an integer lies, in units. -/
def nearest (n : Int) : Int :=
  withSignOf n (roundUnits (n.natAbs * unitsPerOne) 1)

theorem nearest_of_representable {n : Int} (h : Representable (n.natAbs * unitsPerOne)) :
    nearest n = n * unitsPerOne := by
  rw [nearest, roundUnits_of_representable h, withSignOf_natAbs_mul]

theorem roundUnits_zero : roundUnits 0 1 = 0 := by
  simp [roundUnits, divNearest]

theorem nearest_neg (n : Int) : nearest (-n) = -nearest n := by
  rw [nearest, nearest, Int.natAbs_neg]
  refine withSignOf_neg n ?_
  rintro rfl
  rw [Int.natAbs_zero, Nat.zero_mul, roundUnits_zero]

/-- **An integer moves by at most one part in `2 ^ 53`.** -/
theorem nearest_error (n : Int) :
    2 ^ 53 * (nearest n - n * unitsPerOne).natAbs ≤ n.natAbs * unitsPerOne := by
  rw [nearest, ← withSignOf_natAbs_mul n unitsPerOne, natAbs_withSignOf_sub]
  by_cases hn : n.natAbs = 0
  · rw [hn, Nat.zero_mul, roundUnits_zero]
    rfl
  · have hm : n.natAbs * unitsPerOne ≠ 0 := Nat.mul_ne_zero hn unitsPerOne_pos.ne'
    have hs : (n.natAbs * unitsPerOne).log2 = 52 + (n.natAbs.log2 + 1022) := by
      rw [unitsPerOne_eq, log2_mul_pow hn, unitPower]
      omega
    have herror := roundUnits_error hm hs
    generalize n.natAbs * unitsPerOne = m at herror ⊢
    generalize roundUnits m 1 = k at herror ⊢
    omega

theorem isFinite_ofInt {n : Int} : (ofInt n).isFinite = true ↔ n.natAbs < magnitudeLimit :=
  isFinite_ofRatio_one _ _

theorem isFinite_ofRatio {negative : Bool} {num den : Nat}
    (h : (ofRatio negative num den).isFinite = true) :
    ∃ fits, ofRatio negative num den =
      .finite negative (roundUnits (num * unitsPerOne) den) fits := by
  unfold ofRatio at h ⊢
  simp only at h ⊢
  generalize roundUnits (num * unitsPerOne) den = units at h ⊢
  by_cases fits : Representable units
  · exact ⟨fits, dif_pos fits⟩
  · rw [dif_neg fits] at h
    cases h

theorem ofRatio_of_not_isFinite {negative : Bool} {num den : Nat}
    (h : ¬ (ofRatio negative num den).isFinite = true) :
    ofRatio negative num den = .infinite negative := by
  unfold ofRatio at h ⊢
  simp only at h ⊢
  generalize roundUnits (num * unitsPerOne) den = units at h ⊢
  by_cases fits : Representable units
  · rw [dif_pos fits] at h
    exact absurd rfl h
  · exact dif_neg fits

theorem place?_withSignOf {n : Int} {units : Nat} (fits : Representable units) :
    (finite (decide (n < 0)) units fits).place? = some (.at (withSignOf n units)) := by
  by_cases hn : n < 0 <;> simp [hn, place?, withSignOf]

/-- The double nearest to an integer is finite below the limit, and lies there. -/
theorem place?_ofInt {n : Int} (h : n.natAbs < magnitudeLimit) :
    (ofInt n).place? = some (.at (nearest n)) := by
  obtain ⟨fits, hfinite⟩ := isFinite_ofRatio (isFinite_ofInt.mpr h)
  rw [ofInt, hfinite, nearest]
  exact place?_withSignOf fits

/-! ## Order -/

/-- Going over to the nearest double brings an integer up to a bound that it is below, or down
below a bound that it has reached. -/
def RoundsAcross (n b : Int) : Prop :=
  n < b ∧ b * unitsPerOne ≤ nearest n ∨ b ≤ n ∧ nearest n < b * unitsPerOne

/-- A bound is crossed only by integers that no double holds and that are close to it. -/
theorem not_roundsAcross {n b : Int}
    (h : Representable (n.natAbs * unitsPerOne) ∨ n.natAbs < 2 ^ 53 * (n - b).natAbs) :
    ¬ RoundsAcross n b := by
  have hpos : (0 : Int) < unitsPerOne := Int.natCast_pos.mpr unitsPerOne_pos
  rcases h with hn | hfar
  · rw [RoundsAcross, nearest_of_representable hn, Int.mul_le_mul_right hpos,
      Int.mul_lt_mul_right hpos]
    omega
  · -- the bound is farther away than the integer can move
    have hmove : (nearest n - n * unitsPerOne).natAbs <
        (n * unitsPerOne - b * unitsPerOne).natAbs := by
      have hdistance : (n * unitsPerOne - b * unitsPerOne).natAbs =
          (n - b).natAbs * unitsPerOne := by
        rw [← Int.sub_mul, Int.natAbs_mul, Int.natAbs_natCast]
      have hscaled : n.natAbs * unitsPerOne < 2 ^ 53 * ((n - b).natAbs * unitsPerOne) := by
        rw [← Nat.mul_assoc]
        exact Nat.mul_lt_mul_of_pos_right hfar unitsPerOne_pos
      have herror := nearest_error n
      rw [hdistance]
      omega
    have horder : n < b ↔ n * unitsPerOne < b * unitsPerOne :=
      (Int.mul_lt_mul_right hpos).symm
    have horder' : b ≤ n ↔ b * unitsPerOne ≤ n * unitsPerOne :=
      (Int.mul_le_mul_right hpos).symm
    rw [RoundsAcross, horder, horder']
    omega

/-- **The exact order** of an integer and a bound, read off the nearest double. -/
theorem nearest_lt_iff {n b : Int} (h : ¬ RoundsAcross n b) :
    nearest n < b * unitsPerOne ↔ n < b := by
  simp only [RoundsAcross] at h
  omega

/-- Integers of up to fifty-three bits, and the next one, are held by doubles. -/
theorem representable_of_le {n : Nat} (h : n ≤ 2 ^ 53) : Representable (n * unitsPerOne) := by
  -- the end of the format is a variable, so that no step computes it
  obtain ⟨format, hformat⟩ : ∃ p, p = 2098 := ⟨_, rfl⟩
  have hpow (p : Nat) : Nat.pow 2 p = 2 ^ p := rfl
  have hunit : unitPower + 53 < format := by
    rw [hformat]
    decide
  by_cases hn : n = 0
  · rw [hn, Nat.zero_mul]
    exact representable_zero
  have hlog : n.log2 ≤ 53 := by
    rw [← Nat.lt_succ_iff, Nat.log2_lt hn]
    omega
  have hlt : n * 2 ^ unitPower < 2 ^ format := by
    refine Nat.lt_of_le_of_lt (Nat.mul_le_mul_right _ h) ?_
    rw [← Nat.pow_add]
    exact Nat.pow_lt_pow_right (by decide) (by omega)
  rw [Representable, unitsPerOne_eq, ← hformat, hpow, hpow, log2_mul_pow hn]
  refine ⟨hlt, ?_⟩
  rcases Nat.lt_or_eq_of_le hlog with hlt | heq
  -- the power of two in the unit is enough
  · refine Nat.mod_eq_zero_of_dvd (Nat.dvd_mul_left_of_dvd (Nat.pow_dvd_pow 2 ?_) n)
    omega
  · have hpower : n = 2 ^ 53 := Nat.le_antisymm h (heq ▸ Nat.log2_self_le hn)
    rw [hpower, ← Nat.pow_add, Nat.log2_two_pow]
    exact Nat.mod_eq_zero_of_dvd (Nat.pow_dvd_pow 2 (by omega))

end Double

theorem below_int {x : Double} {d b : Int} (h : x.place? = some (.at d)) :
    (Numeric.double x).below (.int b) = decide (d < b * unitsPerOne) := by
  simp only [Numeric.below, Numeric.place?, h, Place.before]

theorem int_below {x : Double} {d b : Int} (h : x.place? = some (.at d)) :
    (Numeric.int b).below (.double x) = decide (b * unitsPerOne < d) := by
  simp only [Numeric.below, Numeric.place?, h, Place.before]

/-! ## Reading digits -/

/-- The digits of a whole number are read as the nearest double. -/
theorem toDouble_whole (negative : Bool) (n : Nat) :
    toDouble negative ⟨n, 0⟩ = Double.ofRatio negative n 1 := by
  by_cases hn : n = 0
  · rw [hn, toDouble_zero, Double.ofRatio_zero]
  have hzero : (n = 0 || decide ((0 : Int) + decimalLength n < -powerLimit)) = false := by
    simp [hn, powerLimit]
  simp only [toDouble, hzero, Bool.false_eq_true, if_false]
  split
  -- too many digits: beyond the limit of the format
  · next hlead =>
      have hlength : ¬ decimalLength n ≤ 400 := by
        simp only [powerLimit] at hlead
        omega
      rw [decimalLength_le_iff (by decide), Nat.not_lt] at hlength
      have hlimit : Double.magnitudeLimit ≤ 10 ^ 400 := by decide +kernel
      have hinfinite : ¬ n < Double.magnitudeLimit := by omega
      rw [← Double.isFinite_ofRatio_one negative] at hinfinite
      exact (Double.ofRatio_of_not_isFinite hinfinite).symm
  · simp [scaled]

/-- **The digits of an integer are read as the double nearest to it**; from the limit of the format
on there is none. -/
theorem parse?_integerChars_eq (n : Int) :
    parse? (integerChars n) =
      .ok (if n.natAbs < Double.magnitudeLimit then some (Double.ofInt n) else none) := by
  have hchars : integerChars n = signed (decide (n < 0)) (decimalDigits n.natAbs ++ []) := by
    rw [integerChars, signed, List.append_nil]
    simp only [decide_eq_true_eq]
  have hdigits : ∀ c ∈ decimalDigits n.natAbs, c.isDigit = true := fun c hc =>
    isDigit_of_mem_decimalDigits hc
  have hne := decimalDigits_ne_nil n.natAbs
  have hsign : Literal.readSign (integerChars n) =
      (decide (n < 0), decimalDigits n.natAbs ++ []) := by
    rw [hchars]
    exact readSign_signed hne hdigits
  have hread := readDecimal?_whole hsign hne hdigits rfl
  have hdouble : toDouble (decide (n < 0))
      ⟨ofDigits 10 (decimalDigits n.natAbs ++ []), 0 - (([] : List Char).length : Int)⟩ =
        Double.ofInt n := by
    rw [List.append_nil, ofDigits_decimalDigits]
    exact toDouble_whole _ _
  simp only [parse?, (isNumeral_integerChars n).read?, hread, Literal.toDouble?, hdouble,
    Double.isFinite_ofInt]

end FieldRules.Number
