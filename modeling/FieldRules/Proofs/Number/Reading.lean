import FieldRules.Proofs.Number.Closest
import FieldRules.Proofs.Number.Grammar
import Mathlib.Tactic.FieldSimp

/-!
# Proofs — Reading

What number a text is read as. A literal has an exact value, a double lies at one (`value`), and
the closest double is the one that no other is nearer to, the even one of two. The texts that spell
a literal are read as the double closest to its value, and no other text is read as a number
(`parse?_reads`).
-/

namespace FieldRules.Number

variable {cs : List Char} {negative : Bool} {m q : ℚ} {units : ℕ} {x : Double}

/-! ## Exact values -/

namespace Double

/-- The number that a finite double is. -/
def value : Double → ℚ
  | .finite negative units _ => withSign negative (units / unitsPerOne : ℚ)
  | _ => 0

/-- The sign bit; not-a-number has none. -/
def isNegative : Double → Bool
  | .finite negative _ _ => negative
  | .infinite negative => negative
  | .nan => false

/-- Finite, and the last of the fifty-three bits is not set. -/
def IsEven : Double → Prop
  | .finite _ units _ => IsEvenCount units
  | _ => False

/-- The double is finite, has the sign and is nearest to the number; it is even if another one is
as near. -/
structure IsClosest (x : Double) (negative : Bool) (q : ℚ) : Prop where
  isFinite : x.isFinite = true
  sign : x.isNegative = negative
  nearest : ∀ y : Double, y.isFinite = true → |x.value - q| ≤ |y.value - q|
  even : ∀ y : Double, y.isFinite = true → y.value ≠ x.value →
    |y.value - q| = |x.value - q| → x.IsEven

/-- The distance of two numbers with one sign. -/
theorem abs_withSign_sub (negative : Bool) (a b : ℚ) :
    |withSign negative a - withSign negative b| = |a - b| := by
  cases negative with
  | false => rfl
  | true =>
      rw [withSign, withSign, if_pos rfl, if_pos rfl, neg_sub_neg, abs_sub_comm]

/-- Numbers with different signs are as far from each other as both are from zero. -/
theorem abs_withSign_sub_of_ne {sign negative : Bool} (hne : sign ≠ negative) {a b : ℚ}
    (ha : 0 ≤ a) (hb : 0 ≤ b) : |withSign sign a - withSign negative b| = a + b := by
  cases sign <;> cases negative
  · exact absurd rfl hne
  · rw [withSign, withSign, if_neg Bool.false_ne_true, if_pos rfl, sub_neg_eq_add,
      abs_of_nonneg (add_nonneg ha hb)]
  · rw [withSign, withSign, if_pos rfl, if_neg Bool.false_ne_true, abs_of_nonpos (by linarith)]
    ring
  · exact absurd rfl hne

theorem unit_pos : (0 : ℚ) < unitsPerOne :=
  Nat.cast_pos.mpr unitsPerOne_pos

/-- Distances in units. -/
theorem abs_div_sub (j : ℕ) (m : ℚ) :
    |(j : ℚ) / unitsPerOne - m| = |(j : ℚ) - m * unitsPerOne| / unitsPerOne := by
  rw [div_sub' unit_pos.ne', abs_div, abs_of_pos unit_pos, mul_comm m]

/-- Every double is as far as its count of units at least. -/
theorem le_abs_value_sub (sign negative : Bool) (fits : Representable units) (hm : 0 ≤ m) :
    |(units : ℚ) - m * unitsPerOne| / unitsPerOne ≤
      |(finite sign units fits).value - withSign negative m| := by
  rw [value, ← abs_div_sub]
  by_cases hsign : sign = negative
  · rw [hsign, abs_withSign_sub]
  · have hunits : (0 : ℚ) ≤ units / unitsPerOne := div_nonneg (Nat.cast_nonneg _) unit_pos.le
    rw [abs_withSign_sub_of_ne hsign hunits hm, abs_le]
    constructor <;> linarith

theorem exists_finite (hx : x.isFinite = true) : ∃ sign units fits, x = finite sign units fits := by
  cases x with
  | finite sign units fits => exact ⟨sign, units, fits, rfl⟩
  | nan => cases hx
  | infinite _ => cases hx

/-- **The nearest count of units makes the closest double.** -/
theorem isClosest_finite {fits : Representable units} (hm : 0 ≤ m)
    (h : IsNearest Representable IsEvenCount units (m * unitsPerOne)) :
    (finite negative units fits).IsClosest negative (withSign negative m) := by
  have hx : |(finite negative units fits).value - withSign negative m| =
      |(units : ℚ) - m * unitsPerOne| / unitsPerOne := by
    rw [value, abs_withSign_sub, abs_div_sub]
  refine ⟨rfl, rfl, fun y hy => ?_, fun y hy hne heq => ?_⟩
  · obtain ⟨sign, j, fits', rfl⟩ := exists_finite hy
    rw [hx]
    refine le_trans ?_ (le_abs_value_sub sign negative fits' hm)
    exact div_le_div_of_nonneg_right (h.nearest j fits') unit_pos.le
  · obtain ⟨sign, j, fits', rfl⟩ := exists_finite hy
    have hle := le_abs_value_sub sign negative fits' hm
    rw [heq, hx, div_le_div_iff_of_pos_right unit_pos] at hle
    by_cases hj : j = units
    -- the same count with the other sign is as near only if it is zero
    · subst hj
      have hsign : sign ≠ negative := by
        rintro rfl
        exact hne rfl
      have hzero := h.nearest 0 representable_zero
      rw [Nat.cast_zero, zero_sub, abs_neg, abs_of_nonneg (mul_nonneg hm unit_pos.le)] at hzero
      have hunits : (0 : ℚ) ≤ j / unitsPerOne := div_nonneg (Nat.cast_nonneg _) unit_pos.le
      rw [hx, value, abs_withSign_sub_of_ne hsign hunits hm, eq_div_iff unit_pos.ne'] at heq
      have hjzero : (j : ℚ) / unitsPerOne = 0 := by nlinarith [unit_pos]
      refine absurd ?_ hne
      simp only [value, hjzero, withSign, neg_zero, ite_self]
    · exact h.even j fits' hj (le_antisymm hle (h.nearest j fits'))

/-- The closest double has the nearest count of units. -/
theorem IsClosest.exists_nearest (h : x.IsClosest negative (withSign negative m)) :
    ∃ units fits, x = finite negative units fits ∧
      IsNearest Representable IsEvenCount units (m * unitsPerOne) := by
  obtain ⟨sign, units, fits, rfl⟩ := exists_finite h.isFinite
  obtain rfl : sign = negative := h.sign
  have hdistance (j : ℕ) (fits' : Representable j) :
      |(finite sign j fits').value - withSign sign m| =
        |(j : ℚ) - m * unitsPerOne| / unitsPerOne := by
    rw [value, abs_withSign_sub, abs_div_sub]
  refine ⟨units, fits, rfl, fits, fun j hj => ?_, fun j hj hne heq => ?_⟩
  · have hnearest := h.nearest (finite sign j hj) rfl
    rwa [hdistance, hdistance, div_le_div_iff_of_pos_right unit_pos] at hnearest
  · refine h.even (finite sign j hj) rfl (fun hvalue => hne ?_) ?_
    · have habs := abs_withSign_sub sign ((j : ℚ) / unitsPerOne) (units / unitsPerOne)
      rw [value, value] at hvalue
      rwa [hvalue, sub_self, abs_zero, eq_comm, abs_eq_zero, sub_eq_zero,
        div_left_inj' unit_pos.ne', Nat.cast_inj] at habs
    · rw [hdistance, hdistance, heq]

/-- **The closest double is unique.** -/
theorem IsClosest.eq {y : Double} (hx : x.IsClosest negative (withSign negative m))
    (hy : y.IsClosest negative (withSign negative m)) : x = y := by
  obtain ⟨a, fitsA, rfl, ha⟩ := hx.exists_nearest
  obtain ⟨b, fitsB, rfl, hb⟩ := hy.exists_nearest
  obtain rfl := eq_of_isNearest ha hb
  rfl

/-- A fraction is rounded to a finite double exactly below the limit, and then to the closest. -/
theorem RoundsTo.finite_iff (h : RoundsTo negative m x) (hm : 0 ≤ m) {y : Double} :
    (x.isFinite = true ∧ x = y) ↔
      m < magnitudeLimit ∧ y.IsClosest negative (withSign negative m) := by
  cases h with
  | finite fits hlt hnearest =>
      have hclosest : (Double.finite negative _ fits).IsClosest negative (withSign negative m) :=
        isClosest_finite hm hnearest
      constructor
      · rintro ⟨-, rfl⟩
        exact ⟨hlt, hclosest⟩
      · rintro ⟨-, hy⟩
        exact ⟨rfl, hclosest.eq hy⟩
  | infinite hle =>
      refine iff_of_false ?_ fun hy => absurd hy.1 (not_lt.mpr hle)
      rintro ⟨hfinite, -⟩
      cases hfinite

theorem RoundsTo.isFinite_iff (h : RoundsTo negative m x) :
    x.isFinite = true ↔ m < magnitudeLimit := by
  cases h with
  | finite _ hlt _ => exact iff_of_true rfl hlt
  | infinite hle => exact iff_of_false Bool.false_ne_true (not_lt.mpr hle)

end Double

namespace Decimal

open Double

/-! ## Decimals -/

/-- What is less than half a unit is rounded to zero. -/
theorem roundsTo_zero (negative : Bool) (hm : 0 ≤ m) (hsmall : m * 10 ^ 400 ≤ 1) :
    RoundsTo negative m (.finite negative 0 representable_zero) := by
  have hunit : 2 * unitsPerOne ≤ 10 ^ 400 := by decide +kernel
  have hlimit : 1 < magnitudeLimit := by decide +kernel
  have hunit' : (2 * unitsPerOne : ℚ) ≤ 10 ^ 400 := by exact_mod_cast hunit
  have hten : (1 : ℚ) ≤ 10 ^ 400 := one_le_pow₀ (by norm_num)
  have hnonneg : 0 ≤ m * unitsPerOne := mul_nonneg hm unit_pos.le
  generalize (10 : ℚ) ^ 400 = ten at *
  have hone : m ≤ 1 := le_trans (le_mul_of_one_le_right hm hten) hsmall
  have hhalf : 2 * (m * unitsPerOne) ≤ 1 := by
    calc 2 * (m * unitsPerOne) = m * (2 * unitsPerOne) := by ring
      _ ≤ m * ten := mul_le_mul_of_nonneg_left hunit' hm
      _ ≤ 1 := hsmall
  refine .finite representable_zero (hone.trans_lt (Nat.one_lt_cast.mpr hlimit))
    ⟨representable_zero, fun j _ => ?_, fun _ _ _ _ => isEvenCount_zero⟩
  rw [Nat.cast_zero, zero_sub, abs_neg, abs_of_nonneg hnonneg]
  rcases Nat.eq_zero_or_pos j with rfl | hj
  · rw [Nat.cast_zero, zero_sub, abs_neg, abs_of_nonneg hnonneg]
  · have hj' : (1 : ℚ) ≤ j := Nat.one_le_cast.mpr hj
    generalize m * (unitsPerOne : ℚ) = count at *
    rw [abs_of_nonneg (by linarith)]
    linarith

/-- The number that the decimal is. -/
def value (d : Decimal) : ℚ :=
  d.digits * 10 ^ d.exponent

theorem value_nonneg (d : Decimal) : 0 ≤ d.value :=
  mul_nonneg (Nat.cast_nonneg _) (zpow_nonneg (by norm_num) _)

theorem lt_pow_decimalLength (n : ℕ) : n < 10 ^ decimalLength n :=
  (decimalLength_le_iff (List.length_pos_of_ne_nil (decimalDigits_ne_nil n))).mp le_rfl

theorem pow_decimalLength_le {n : ℕ} (hn : n ≠ 0) : 10 ^ (decimalLength n - 1) ≤ n := by
  by_contra hlt
  rw [Nat.not_le] at hlt
  by_cases hlength : decimalLength n - 1 = 0
  · rw [hlength] at hlt
    omega
  · have hle := (decimalLength_le_iff (Nat.pos_of_ne_zero hlength)).mpr hlt
    omega

/-- The power of ten of the leading digit bounds a decimal. -/
theorem value_bounds {d : Decimal} (hd : d.digits ≠ 0) :
    (10 : ℚ) ^ (d.exponent + decimalLength d.digits - 1) ≤ d.value ∧
      d.value ≤ 10 ^ (d.exponent + decimalLength d.digits) := by
  have hten : (10 : ℚ) ≠ 0 := by norm_num
  have hpower : (0 : ℚ) ≤ 10 ^ d.exponent := zpow_nonneg (by norm_num) _
  have hlow : ((10 ^ (decimalLength d.digits - 1) : ℕ) : ℚ) ≤ d.digits :=
    Nat.cast_le.mpr (pow_decimalLength_le hd)
  have hhigh : (d.digits : ℚ) ≤ (10 ^ decimalLength d.digits : ℕ) :=
    Nat.cast_le.mpr (lt_pow_decimalLength d.digits).le
  have hlength : 0 < decimalLength d.digits :=
    List.length_pos_of_ne_nil (decimalDigits_ne_nil d.digits)
  rw [Nat.cast_pow, Nat.cast_ofNat, ← zpow_natCast] at hlow hhigh
  constructor
  · have hsum : d.exponent + decimalLength d.digits - 1 =
        (decimalLength d.digits - 1 : ℕ) + d.exponent := by omega
    rw [hsum, zpow_add₀ hten]
    exact mul_le_mul_of_nonneg_right hlow hpower
  · rw [Int.add_comm, zpow_add₀ hten]
    exact mul_le_mul_of_nonneg_right hhigh hpower

/-- A decimal as a fraction. -/
theorem scaled_div (n : ℕ) (e : ℤ) :
    0 < (scaled n 1 e).2 ∧ ((scaled n 1 e).1 : ℚ) / (scaled n 1 e).2 = value ⟨n, e⟩ := by
  rcases Int.lt_or_le e 0 with he | he
  · obtain ⟨k, rfl⟩ : ∃ k : ℕ, e = -k := ⟨e.natAbs, by omega⟩
    rw [scaled_of_neg he, value, Int.neg_neg, Int.toNat_natCast, zpow_neg, zpow_natCast,
      Nat.one_mul, Nat.cast_pow, Nat.cast_ofNat, div_eq_mul_inv]
    exact ⟨Nat.pow_pos (by decide), rfl⟩
  · obtain ⟨k, rfl⟩ := Int.eq_ofNat_of_zero_le he
    rw [scaled_of_nonneg he, value, Int.toNat_natCast, zpow_natCast, Nat.cast_mul, Nat.cast_pow,
      Nat.cast_ofNat, Nat.cast_one, div_one]
    exact ⟨Nat.one_pos, rfl⟩

/-- **A decimal is rounded to the nearest double**, however large or small its power of ten. -/
theorem roundsTo_toDouble (negative : Bool) (d : Decimal) :
    RoundsTo negative d.value (d.toDouble negative) := by
  have hten : (10 : ℚ) ≠ 0 := by norm_num
  have hpower : (10 : ℚ) ^ (400 : ℤ) = 10 ^ 400 := zpow_natCast 10 400
  have hlimit : powerLimit = 400 := rfl
  by_cases hd : d.digits = 0
  · have hvalue : d.value = (0 : ℕ) / (1 : ℕ) := by simp [value, hd]
    have hzero : d.toDouble negative = ofRatio negative 0 1 := by simp [toDouble, hd]
    rw [hzero, hvalue]
    exact roundsTo_ofRatio negative Nat.one_pos 0
  obtain ⟨hlow, hhigh⟩ := value_bounds hd
  simp only [toDouble, hd, decide_false, Bool.false_or, decide_eq_true_eq]
  split
  -- below the smallest double
  · next hlead =>
      rw [ofRatio_zero]
      refine roundsTo_zero negative d.value_nonneg ?_
      calc d.value * 10 ^ 400
          ≤ 10 ^ (d.exponent + decimalLength d.digits) * 10 ^ 400 :=
            mul_le_mul_of_nonneg_right hhigh (pow_nonneg (by norm_num) _)
        _ = 10 ^ (d.exponent + decimalLength d.digits + 400) := by
            rw [zpow_add₀ hten _ 400, hpower]
        _ ≤ 1 := zpow_le_one_of_nonpos₀ (by norm_num) (by omega)
  · split
    -- above the largest double
    · next hlead =>
        have hformat : magnitudeLimit ≤ 10 ^ 400 := by decide +kernel
        refine .infinite ?_
        calc (magnitudeLimit : ℚ) ≤ (10 ^ 400 : ℕ) := Nat.cast_le.mpr hformat
          _ = 10 ^ (400 : ℤ) := by rw [Nat.cast_pow, Nat.cast_ofNat, hpower]
          _ ≤ 10 ^ (d.exponent + decimalLength d.digits - 1) :=
            zpow_le_zpow_right₀ (by norm_num) (by omega)
          _ ≤ d.value := hlow
    · obtain ⟨hden, hvalue⟩ := scaled_div d.digits d.exponent
      have hround := roundsTo_ofRatio negative hden (scaled d.digits 1 d.exponent).1
      rwa [hvalue] at hround

end Decimal

namespace Literal

open Double Decimal

variable {l : Literal}

/-! ## Literals -/

/-- An integer with a prefix. -/
def isBased : Literal → Bool
  | .based .. => true
  | .decimal .. => false

/-- Written with a minus sign. -/
def isNegative : Literal → Bool
  | .based .. => false
  | .decimal negative .. => negative

/-- The number that a literal is without its sign: the places of its digits, those after the point
included, and its power of ten. -/
def magnitude : Literal → ℚ
  | .based radix digits => placeValue radix digits
  | .decimal _ whole fraction exponent =>
    (placeValue 10 whole + placeValue 10 fraction / 10 ^ fraction.length) * 10 ^ exponent

/-- The exact value of a literal. -/
def value (l : Literal) : ℚ :=
  withSign l.isNegative l.magnitude

theorem magnitude_nonneg (l : Literal) : 0 ≤ l.magnitude := by
  cases l with
  | based radix digits => exact Nat.cast_nonneg _
  | decimal negative whole fraction exponent =>
      have hten (k : ℕ) : (0 : ℚ) ≤ 10 ^ k := pow_nonneg (by norm_num) k
      exact mul_nonneg (add_nonneg (Nat.cast_nonneg _) (div_nonneg (Nat.cast_nonneg _) (hten _)))
        (zpow_nonneg (by norm_num) _)

theorem abs_value (l : Literal) : |l.value| = l.magnitude := by
  rw [value, withSign]
  split
  · rw [abs_neg, abs_of_nonneg l.magnitude_nonneg]
  · exact abs_of_nonneg l.magnitude_nonneg

/-- The digits on both sides of the point as one number, with the power of ten that belongs to
it. -/
theorem value_digits (negative : Bool) (whole fraction : List Char) (exponent : ℤ) :
    Decimal.value ⟨ofDigits 10 (whole ++ fraction), exponent - fraction.length⟩ =
      (decimal negative whole fraction exponent).magnitude := by
  have hten : (10 : ℚ) ≠ 0 := by norm_num
  have hpow : (10 : ℚ) ^ fraction.length ≠ 0 := pow_ne_zero _ hten
  rw [Decimal.value, magnitude, ofDigits_append, ofDigits_eq_placeValue, ofDigits_eq_placeValue,
    zpow_sub₀ hten, zpow_natCast, Nat.cast_add, Nat.cast_mul, Nat.cast_pow, Nat.cast_ofNat]
  field_simp

/-- The double that a literal is rounded to, the infinite ones included. -/
def rounded : Literal → Double
  | .based radix digits => .ofRatio false (ofDigits radix digits) 1
  | .decimal negative whole fraction exponent =>
    toDouble negative ⟨ofDigits 10 (whole ++ fraction), exponent - fraction.length⟩

/-- **A literal is rounded to the double closest to its value.** -/
theorem roundsTo_rounded (l : Literal) : RoundsTo l.isNegative l.magnitude l.rounded := by
  cases l with
  | based radix digits =>
      have hvalue : ((ofDigits radix digits : ℕ) : ℚ) / (1 : ℕ) =
          (based radix digits).magnitude := by
        rw [magnitude, ofDigits_eq_placeValue, Nat.cast_one, div_one]
      rw [← hvalue]
      exact roundsTo_ofRatio false Nat.one_pos _
  | decimal negative whole fraction exponent =>
      rw [← value_digits]
      exact roundsTo_toDouble negative _

/-- A literal beyond the largest double is an excess with a prefix and no number without. -/
theorem toDouble?_eq (l : Literal) :
    l.toDouble? = if l.rounded.isFinite then .ok (some l.rounded)
      else if l.isBased then .error .magnitude else .ok none := by
  cases l with
  | based radix digits =>
      simp only [toDouble?, rounded, isBased, if_true]
  | decimal negative whole fraction exponent =>
      simp only [toDouble?, rounded, isBased, Bool.false_eq_true, if_false]
      split <;> rfl

theorem toDouble?_eq_some :
    l.toDouble? = .ok (some x) ↔
      |l.value| < magnitudeLimit ∧ x.IsClosest l.isNegative l.value := by
  rw [abs_value, value, ← l.roundsTo_rounded.finite_iff l.magnitude_nonneg, toDouble?_eq]
  by_cases hfinite : l.rounded.isFinite = true
  · simp [hfinite]
  · by_cases hbased : l.isBased = true <;> simp [hfinite, hbased]

theorem toDouble?_eq_none :
    l.toDouble? = .ok none ↔ l.isBased = false ∧ magnitudeLimit ≤ |l.value| := by
  rw [abs_value, ← not_lt, ← l.roundsTo_rounded.isFinite_iff, toDouble?_eq]
  by_cases hfinite : l.rounded.isFinite = true
  · simp [hfinite]
  · by_cases hbased : l.isBased = true <;> simp [hfinite, hbased]

theorem toDouble?_eq_error {e : Excess} :
    l.toDouble? = .error e ↔
      e = .magnitude ∧ l.isBased = true ∧ magnitudeLimit ≤ |l.value| := by
  rw [abs_value, ← not_lt, ← l.roundsTo_rounded.isFinite_iff, toDouble?_eq]
  by_cases hfinite : l.rounded.isFinite = true
  · simp [hfinite]
  · by_cases hbased : l.isBased = true <;> simp [hfinite, hbased, eq_comm]

end Literal

open Double Literal

/-! ## Texts -/

theorem parse?_of_read? {l : Literal} (h : Literal.read? cs = some l) :
    parse? cs = l.toDouble? := by
  rw [parse?, h]

theorem parse?_of_not_read? (h : Literal.read? cs = none) : parse? cs = .ok none := by
  rw [parse?, h]

theorem parse?_eq_some :
    parse? cs = .ok (some x) ↔ ∃ l, Spells l (Text.trim cs) ∧
      |l.value| < magnitudeLimit ∧ x.IsClosest l.isNegative l.value := by
  simp only [← read?_eq_some]
  cases hread : Literal.read? cs with
  | none =>
      simp only [parse?_of_not_read? hread, Except.ok.injEq, reduceCtorEq, false_and, exists_false]
  | some l =>
      simp only [parse?_of_read? hread, toDouble?_eq_some, Option.some.injEq, exists_eq_left']

theorem parse?_eq_none :
    parse? cs = .ok none ↔ ∀ l, Spells l (Text.trim cs) →
      l.isBased = false ∧ magnitudeLimit ≤ |l.value| := by
  simp only [← read?_eq_some]
  cases hread : Literal.read? cs with
  | none =>
      simp only [parse?_of_not_read? hread, reduceCtorEq, false_imp_iff, implies_true]
  | some l =>
      simp only [parse?_of_read? hread, toDouble?_eq_none, Option.some.injEq, forall_eq']

theorem parse?_eq_excess {e : Excess} :
    parse? cs = .error e ↔ e = .magnitude ∧ ∃ l, Spells l (Text.trim cs) ∧
      l.isBased = true ∧ magnitudeLimit ≤ |l.value| := by
  simp only [← read?_eq_some]
  cases hread : Literal.read? cs with
  | none =>
      simp only [parse?_of_not_read? hread, reduceCtorEq, false_and, exists_false, and_false]
  | some l =>
      simp only [parse?_of_read? hread, toDouble?_eq_error, Option.some.injEq, exists_eq_left']

/-- **Every text is read as the number that it spells**, white space at its ends apart: as the
double closest to the exact value of the literal, if it is a literal inside the format. A decimal
beyond the format and any other text are no number, and a prefixed integer beyond it is an
excess. -/
theorem parse?_reads (cs : List Char) :
    (∀ x, parse? cs = .ok (some x) ↔ ∃ l, Spells l (Text.trim cs) ∧
      |l.value| < magnitudeLimit ∧ x.IsClosest l.isNegative l.value) ∧
    (parse? cs = .ok none ↔ ∀ l, Spells l (Text.trim cs) →
      l.isBased = false ∧ magnitudeLimit ≤ |l.value|) ∧
    ∀ e, parse? cs = .error e ↔ e = .magnitude ∧ ∃ l, Spells l (Text.trim cs) ∧
      l.isBased = true ∧ magnitudeLimit ≤ |l.value| :=
  ⟨fun _ => parse?_eq_some, parse?_eq_none, fun _ => parse?_eq_excess⟩

/-- Halfway between two doubles, the even one is read. -/
example : parse? "9007199254740993".toList = .ok (some (.ofInt 9007199254740992)) := by
  decide +kernel

end FieldRules.Number
