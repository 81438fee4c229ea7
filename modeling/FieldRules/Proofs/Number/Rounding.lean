import FieldRules.Proofs.Number.Digits
import FieldRules.Proofs.Number.Magnitude

/-!
# Proofs — Rounding

Which double a decimal is read as. Rounding depends on the quotient alone (`ofRatio_mul`) and
leaves a count of units that a double can hold as it is (`ofRatio_of_units`), so a decimal and the
same number with zeros at its end are read as the same double (`toDouble_mul_pow`), and the
fewest digits that a double is written with are read as this double (`toDouble_shortest`).
-/

namespace FieldRules.Number

namespace Double

variable {num den units k : Nat} {negative : Bool}

/-! ## Quotients -/

theorem divNearest_mul (hk : 0 < k) (num den : Nat) :
    divNearest (num * k) (den * k) = divNearest num den := by
  have hleft : 2 * (num % den * k) < den * k ↔ 2 * (num % den) < den := by
    rw [← Nat.mul_assoc, Nat.mul_lt_mul_right hk]
  have hright : den * k < 2 * (num % den * k) ↔ den < 2 * (num % den) := by
    rw [← Nat.mul_assoc, Nat.mul_lt_mul_right hk]
  simp only [divNearest, Nat.mul_div_mul_right num den hk, Nat.mul_mod_mul_right, hleft, hright]

theorem roundUnits_mul (hk : 0 < k) (num den : Nat) :
    roundUnits (num * k) (den * k) = roundUnits num den := by
  simp only [roundUnits, Nat.mul_div_mul_right num den hk, Nat.mul_right_comm den k,
    divNearest_mul hk]

/-- **Rounding depends on the quotient alone.** -/
theorem ofRatio_mul (hk : 0 < k) (negative : Bool) (num den : Nat) :
    ofRatio negative (num * k) (den * k) = ofRatio negative num den := by
  simp only [ofRatio, Nat.mul_right_comm num k, roundUnits_mul hk]

/-- A count of units that a double can hold is not rounded. -/
theorem roundUnits_of_representable (h : Representable units) : roundUnits units 1 = units := by
  have hstep : 0 < Nat.pow 2 (units.log2 - 52) := Nat.two_pow_pos _
  have hdvd := Nat.div_mul_cancel (Nat.dvd_of_mod_eq_zero h.2)
  simp only [roundUnits, Nat.div_one, Nat.one_mul, divNearest, h.2, Nat.mul_zero, if_pos hstep]
  exact hdvd

/-- **A quotient that a double can hold is that double.** -/
theorem ofRatio_of_units (negative : Bool) (h : Representable units) (hden : 0 < den)
    (hnum : num * unitsPerOne = units * den) :
    ofRatio negative num den = .finite negative units h := by
  have hround : roundUnits (num * unitsPerOne) den = units := by
    calc roundUnits (num * unitsPerOne) den
        = roundUnits (units * den) (1 * den) := by rw [hnum, Nat.one_mul]
      _ = roundUnits units 1 := roundUnits_mul hden units 1
      _ = units := roundUnits_of_representable h
  simp only [ofRatio, hround, dif_pos h]

/-- The sign does not influence the magnitude. -/
theorem ofRatio_sign {sign : Bool} {fits : Representable units}
    (h : ofRatio false num den = .finite sign units fits) (negative : Bool) :
    ofRatio negative num den = .finite negative units fits := by
  simp only [ofRatio] at h ⊢
  split at h
  · next hround =>
      obtain ⟨-, hunits⟩ := Double.finite.inj h
      simp only [hunits, dif_pos fits]
  · cases h

theorem unitsPerOne_eq : unitsPerOne = 2 ^ unitPower := by
  unfold unitsPerOne
  generalize unitPower = power
  rfl

theorem unitsPerOne_pos : 0 < unitsPerOne := by
  rw [unitsPerOne_eq]
  exact Nat.two_pow_pos _

theorem ofRatio_zero (negative : Bool) :
    ofRatio negative 0 1 = .finite negative 0 representable_zero :=
  ofRatio_of_units negative representable_zero Nat.one_pos (by simp)

end Double

namespace Decimal

open Double

variable {d : Decimal} {units : Nat} {negative : Bool}

/-! ## Decimals -/

theorem scaled_of_nonneg {power : Int} (h : 0 ≤ power) (num den : Nat) :
    scaled num den power = (num * 10 ^ power.toNat, den) := by
  rw [scaled, if_pos h]
  rfl

theorem scaled_of_neg {power : Int} (h : power < 0) (num den : Nat) :
    scaled num den power = (num, den * 10 ^ (-power).toNat) := by
  rw [scaled, if_neg (Int.not_le.mpr h)]
  rfl

/-- A zero at the end is a power of ten. -/
theorem ofRatio_scaled_mul_pow (negative : Bool) (n k : Nat) (e : Int) :
    ofRatio negative (scaled (n * 10 ^ k) 1 e).1 (scaled (n * 10 ^ k) 1 e).2 =
      ofRatio negative (scaled n 1 (e + k)).1 (scaled n 1 (e + k)).2 := by
  have hten (p : Nat) : 0 < 10 ^ p := Nat.pow_pos (by decide)
  rcases Int.lt_or_le e 0 with he | he
  · rw [scaled_of_neg he]
    rcases Int.lt_or_le (e + k) 0 with hek | hek
    -- the exponent stays negative: both sides of the quotient lose the power
    · have hpow : (-e).toNat = (-(e + k)).toNat + k := by omega
      rw [scaled_of_neg hek, hpow, pow_add, ← Nat.mul_assoc, ofRatio_mul (hten k)]
    · have hpow : k = (e + k).toNat + (-e).toNat := by omega
      have hnum : n * 10 ^ k = n * 10 ^ (e + k).toNat * 10 ^ (-e).toNat := by
        rw [Nat.mul_assoc, ← pow_add, ← hpow]
      rw [scaled_of_nonneg hek, hnum, ofRatio_mul (hten _)]
  · have hpow : (e + k).toNat = k + e.toNat := by omega
    rw [scaled_of_nonneg he, scaled_of_nonneg (by omega), hpow, pow_add, Nat.mul_assoc]

/-- **Zeros at the end are powers of ten** to the reader of a decimal. -/
theorem toDouble_mul_pow (negative : Bool) (n k : Nat) (e : Int) :
    toDouble negative ⟨n * 10 ^ k, e⟩ = toDouble negative ⟨n, e + k⟩ := by
  by_cases hn : n = 0
  · simp [toDouble, hn]
  · have hne : n * 10 ^ k ≠ 0 := Nat.mul_ne_zero hn (Nat.pow_pos (by decide)).ne'
    have hlead : e + (decimalLength (n * 10 ^ k) : Int) = e + k + decimalLength n := by
      rw [decimalLength_mul_pow hn]
      omega
    simp only [toDouble, hlead, hn, hne, ofRatio_scaled_mul_pow]

/-- A decimal that a double can hold is read as that double, if its size is moderate. -/
theorem toDouble_of_units (negative : Bool) (hd : d.digits ≠ 0)
    (hlow : -powerLimit ≤ d.exponent + decimalLength d.digits)
    (hhigh : d.exponent + decimalLength d.digits ≤ powerLimit) (h : Representable units)
    (hden : 0 < (scaled d.digits 1 d.exponent).2)
    (hnum : (scaled d.digits 1 d.exponent).1 * unitsPerOne =
      units * (scaled d.digits 1 d.exponent).2) :
    d.toDouble negative = .finite negative units h := by
  have hzero : (d.digits = 0 || decide (d.exponent + decimalLength d.digits < -powerLimit)) =
      false := by
    simp [hd, hlow]
  simp only [toDouble, hzero, Bool.false_eq_true, if_false, if_neg (Int.not_lt.mpr hhigh)]
  exact ofRatio_of_units negative h hden hnum

theorem toDouble_zero (negative : Bool) (e : Int) :
    toDouble negative ⟨0, e⟩ = .finite negative 0 representable_zero := by
  simp [toDouble, ofRatio_zero]

/-- The sign does not influence the magnitude. -/
theorem toDouble_sign {sign : Bool} {fits : Representable units}
    (h : d.toDouble false = .finite sign units fits) (negative : Bool) :
    d.toDouble negative = .finite negative units fits := by
  simp only [toDouble] at h ⊢
  split at h
  · next hzero =>
      rw [if_pos hzero]
      exact ofRatio_sign h negative
  · next hzero =>
      rw [if_neg hzero]
      split at h
      · cases h
      · next hlead =>
          rw [if_neg hlead]
          exact ofRatio_sign h negative

/-! ## Integers -/

/-- The end of the format. The power is a variable, so that no step below computes it. -/
theorem lt_format (h : Representable units) (p : Nat) (hp : p = 2098) : units < 2 ^ p := by
  have hformat : Nat.pow 2 2098 = 2 ^ p := by
    rw [← hp]
    rfl
  rw [Representable, hformat] at h
  exact h.1

/-- A double without a fraction has a moderate number of digits. -/
theorem lt_of_representable {n : Nat} (h : Representable (n * unitsPerOne)) : n < 10 ^ 400 := by
  have hlt : n * 2 ^ unitPower < 2 ^ 1024 * 2 ^ unitPower := by
    rw [← unitsPerOne_eq, unitsPerOne_eq, ← pow_add, ← unitsPerOne_eq]
    exact lt_format h _ rfl
  have hn : n < 2 ^ 1024 := Nat.lt_of_mul_lt_mul_right hlt
  exact Nat.lt_trans hn (by decide +kernel)

/-- **The digits of a double without a fraction are read as the double.** -/
theorem toDouble_integer (negative : Bool) {n : Nat} (h : Representable (n * unitsPerOne)) :
    toDouble negative ⟨n, 0⟩ = .finite negative (n * unitsPerOne) h := by
  by_cases hn : n = 0
  · subst hn
    rw [toDouble_zero]
    simp
  · have hlength : decimalLength n ≤ 400 :=
      (decimalLength_le_iff (by decide)).mpr (lt_of_representable h)
    refine toDouble_of_units negative hn ?_ ?_ h ?_ ?_
    · simp only [powerLimit]
      omega
    · simp only [powerLimit]
      omega
    · simp [scaled]
    · simp [scaled]

/-! ## Shortest digits -/

/-- Digits that read as a number of units, with either sign. -/
theorem toDouble_of_readsAs (h : readsAs units d = true) (negative : Bool) :
    ∃ fits, d.toDouble negative = .finite negative units fits := by
  unfold readsAs at h
  split at h
  · next sign m fits hread =>
      obtain rfl : m = units := of_decide_eq_true h
      exact ⟨fits, toDouble_sign hread negative⟩
  · cases h

/-- One of the two neighbours on a grid is taken, and only if it reads back. -/
theorem readsAs_of_ofLength? {lead : Int} {length : Nat}
    (h : ofLength? units lead length = some d) : readsAs units d = true := by
  simp only [ofLength?] at h
  split at h
  · next hlower hupper =>
      -- the nearer of the two is one of them
      obtain ⟨hge, hle⟩ := divNearest_bounds
        (scaled units unitsPerOne (-(lead - length + 1))).1
        (scaled units unitsPerOne (-(lead - length + 1))).2
      rw [← Option.some.inj h]
      rcases Nat.lt_or_eq_of_le hge with hlt | heq
      · rw [Nat.le_antisymm hle hlt]
        exact hupper
      · rw [← heq]
        exact hlower
  · next hlower _ =>
      rw [← Option.some.inj h]
      exact hlower
  · next _ hupper =>
      rw [← Option.some.inj h]
      exact hupper
  · cases h

theorem five_pow_mul_unitsPerOne : 5 ^ unitPower * unitsPerOne = 10 ^ unitPower := by
  have hten : 5 * 2 = 10 := rfl
  rw [unitsPerOne_eq, ← mul_pow, hten]

/-- All digits of a double are read as the double. -/
theorem toDouble_exact (negative : Bool) (h : Representable units) (hne : units ≠ 0) :
    (exact units).toDouble negative = .finite negative units h := by
  have hpow (p : Nat) : Nat.pow 5 p = 5 ^ p := rfl
  have hdigits : (exact units).digits = units * 5 ^ unitPower := by rw [exact, hpow]
  have hexponent : (exact units).exponent = -unitPower := rfl
  have hunit : (unitPower : Int) = 1074 := rfl
  have hlimit : powerLimit = 400 := rfl
  have hpos : 0 < units := Nat.pos_of_ne_zero hne
  have hscaled : scaled (exact units).digits 1 (exact units).exponent =
      (units * 5 ^ unitPower, 10 ^ unitPower) := by
    rw [hexponent, scaled_of_neg (by decide), hdigits]
    simp
  -- the digits of the smallest and of the largest double
  have hlow : ¬ decimalLength (units * 5 ^ unitPower) ≤ 674 := by
    rw [decimalLength_le_iff (by decide), Nat.not_lt]
    have hfive : 10 ^ 674 ≤ 5 ^ unitPower := by decide +kernel
    exact Nat.le_trans hfive (Nat.le_mul_of_pos_left _ hpos)
  have hhigh : decimalLength (units * 5 ^ unitPower) ≤ 1474 := by
    rw [decimalLength_le_iff (by decide)]
    have hformat : Nat.pow 2 2098 * 5 ^ unitPower ≤ 10 ^ 1474 := by decide +kernel
    exact Nat.lt_of_lt_of_le (Nat.mul_lt_mul_of_pos_right h.1 (Nat.pow_pos (by decide))) hformat
  refine toDouble_of_units negative ?_ ?_ ?_ h ?_ ?_
  · rw [hdigits]
    exact Nat.mul_ne_zero hne (Nat.pow_pos (by decide)).ne'
  · rw [hdigits, hexponent]
    omega
  · rw [hdigits, hexponent]
    omega
  · rw [hscaled]
    exact Nat.pow_pos (by decide)
  · rw [hscaled, Nat.mul_assoc, five_pow_mul_unitsPerOne]

/-- **The digits that a double is written with are read as the double.** -/
theorem toDouble_shortest (negative : Bool) (h : Representable units) (hne : units ≠ 0) :
    (shortest units).toDouble negative = .finite negative units h := by
  have hshortest : shortest units = ((List.range 17).findSome? fun i =>
      ofLength? units (leadingPower units unitsPerOne) (i + 1)).getD (exact units) := rfl
  rw [hshortest]
  cases hfound : (List.range 17).findSome? fun i =>
      ofLength? units (leadingPower units unitsPerOne) (i + 1) with
  | none => exact toDouble_exact negative h hne
  | some d =>
      obtain ⟨i, -, hi⟩ := List.exists_of_findSome?_eq_some hfound
      obtain ⟨fits, hread⟩ := toDouble_of_readsAs (readsAs_of_ofLength? hi) negative
      exact hread

end Decimal
end FieldRules.Number
