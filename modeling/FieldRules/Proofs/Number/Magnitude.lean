import FieldRules.Number.Double
import Mathlib.Tactic.Ring

/-!
# Proofs — Magnitude

How large an integer may be to have a double near it. Rounding an integer of some bits keeps the
first fifty-three of them (`mod_significant`), so what decides is whether the rounding leaves
the format; that happens from half a step past the largest double on, since a half there goes
up (`isFinite_ofRatio_one`).
-/

namespace FieldRules.Number.Double

/-! ## Rounding a quotient -/

/-- A quotient is rounded to its floor or to the integer after it. -/
theorem divNearest_bounds (num den : Nat) :
    num / den ≤ divNearest num den ∧ divNearest num den ≤ num / den + 1 := by
  simp only [divNearest]
  split
  · omega
  · split
    · omega
    · split <;> omega

/-- A half goes up from an odd integer. -/
theorem divNearest_le_iff {num den k : Nat} (hden : 0 < den) (hk : k % 2 = 1) :
    divNearest num den ≤ k ↔ 2 * num < (2 * k + 1) * den := by
  have hnum : den * (num / den) + num % den = num := Nat.div_add_mod num den
  have hrest : num % den < den := Nat.mod_lt num hden
  have hbounds := divNearest_bounds num den
  have hright : (2 * k + 1) * den = 2 * (den * k) + den := by ring
  rw [hright]
  rcases Nat.lt_trichotomy (num / den) k with hlt | heq | hgt
  · have hmul : den * (num / den) + den ≤ den * k := by
      rw [← Nat.mul_succ]
      exact Nat.mul_le_mul_left den hlt
    omega
  · rw [← heq]
    simp only [divNearest]
    split
    · omega
    · split
      · omega
      · split <;> omega
  · have hmul : den * k + den ≤ den * (num / den) := by
      rw [← Nat.mul_succ]
      exact Nat.mul_le_mul_left den hgt
    omega

/-! ## Rounding an integer -/

variable {m s t : Nat}

/-- The first fifty-three bits of an integer that has `53 + s` of them. -/
theorem floor_bounds (hm : m ≠ 0) (hs : m.log2 = 52 + s) :
    2 ^ 52 ≤ m / 2 ^ s ∧ m / 2 ^ s < 2 ^ 53 := by
  obtain ⟨hlow, hhigh⟩ := (Nat.log2_eq_iff hm).mp hs
  have hpos : 0 < 2 ^ s := Nat.two_pow_pos s
  constructor
  · rw [Nat.le_div_iff_mul_le hpos, ← Nat.pow_add]
    exact hlow
  · rw [Nat.div_lt_iff_lt_mul hpos, ← Nat.pow_add]
    exact Nat.lt_of_lt_of_eq hhigh (by congr 1; omega)

theorem roundUnits_one (hs : m.log2 = 52 + s) :
    roundUnits m 1 = divNearest m (2 ^ s) * 2 ^ s := by
  have hstep : (m / 1).log2 - 52 = s := by
    rw [Nat.div_one, hs]
    omega
  rw [roundUnits, hstep, Nat.one_mul]
  rfl

theorem divNearest_pow_bounds (hm : m ≠ 0) (hs : m.log2 = 52 + s) :
    2 ^ 52 ≤ divNearest m (2 ^ s) ∧ divNearest m (2 ^ s) ≤ 2 ^ 53 := by
  have hfloor := floor_bounds hm hs
  have hbounds := divNearest_bounds m (2 ^ s)
  omega

theorem log2_mul_pow {k : Nat} (hk : k ≠ 0) : (k * 2 ^ s).log2 = k.log2 + s := by
  have hpos : 0 < 2 ^ s := Nat.two_pow_pos s
  have hne : k * 2 ^ s ≠ 0 := Nat.mul_ne_zero hk hpos.ne'
  rw [Nat.log2_eq_iff hne, Nat.add_right_comm, Nat.pow_add, Nat.pow_add]
  exact ⟨Nat.mul_le_mul_right _ (Nat.log2_self_le hk),
    Nat.mul_lt_mul_of_pos_right Nat.lt_log2_self hpos⟩

/-- Fifty-three significant bits, or the power of two that a carry leads to. -/
theorem mod_significant {k : Nat} (s : Nat) (hlow : 2 ^ 52 ≤ k) (hhigh : k ≤ 2 ^ 53) :
    k * 2 ^ s % 2 ^ ((k * 2 ^ s).log2 - 52) = 0 := by
  have hk : k ≠ 0 := by omega
  rw [log2_mul_pow hk]
  rcases Nat.lt_or_eq_of_le hhigh with hlt | rfl
  · have hlog : k.log2 = 52 := (Nat.log2_eq_iff hk).mpr ⟨hlow, hlt⟩
    rw [hlog, Nat.add_sub_cancel_left]
    exact Nat.mul_mod_left k (2 ^ s)
  · rw [Nat.log2_two_pow, ← Nat.pow_add]
    exact Nat.mod_eq_zero_of_dvd (Nat.pow_dvd_pow 2 (by omega))

/-- **Rounding reaches a power of two** from half a step below it on. -/
theorem roundUnits_lt_iff (hm : m ≠ 0) (hs : m.log2 = 52 + s) (t : Nat) :
    roundUnits m 1 < 2 ^ (53 + t) ↔ 2 * m < (2 ^ 54 - 1) * 2 ^ t := by
  obtain ⟨hlow, hhigh⟩ := divNearest_pow_bounds hm hs
  obtain ⟨hmlow, hmhigh⟩ := (Nat.log2_eq_iff hm).mp hs
  rw [roundUnits_one hs, Nat.pow_add 2 53 t]
  rcases Nat.lt_trichotomy s t with hlt | rfl | hgt
  -- fewer bits than the power has: both sides hold
  · have hstep : 2 * 2 ^ s ≤ 2 ^ t := by
      rw [← Nat.pow_succ']
      exact Nat.pow_le_pow_right (by decide) hlt
    have hm' : m < 2 ^ 53 * 2 ^ s := by
      rw [← Nat.pow_add]
      exact Nat.lt_of_lt_of_eq hmhigh (by congr 1; omega)
    have hk := Nat.mul_le_mul_right (2 ^ s) hhigh
    have hpos : 0 < 2 ^ s := Nat.two_pow_pos s
    constructor <;> intro _ <;> omega
  · have hpos : 0 < 2 ^ s := Nat.two_pow_pos s
    -- the largest count of fifty-three bits is odd, so a half step above it goes up
    have hodd : divNearest m (2 ^ s) ≤ 2 ^ 53 - 1 ↔ 2 * m < (2 * (2 ^ 53 - 1) + 1) * 2 ^ s :=
      divNearest_le_iff hpos (by decide)
    have hsum : 2 * (2 ^ 53 - 1) + 1 = 2 ^ 54 - 1 := by decide
    rw [Nat.mul_lt_mul_right hpos, ← hsum, ← hodd]
    omega
  -- more bits: both sides fail
  · have hstep : 2 * 2 ^ t ≤ 2 ^ s := by
      rw [← Nat.pow_succ']
      exact Nat.pow_le_pow_right (by decide) hgt
    have hm' : 2 ^ 52 * 2 ^ s ≤ m := by
      rw [← Nat.pow_add]
      exact hmlow
    have hk := Nat.mul_le_mul_right (2 ^ s) hlow
    constructor <;> intro _ <;> omega

/-! ## The largest double -/

theorem representable_zero : Representable 0 := by
  decide +kernel

/-- The format ends at this power of two. -/
theorem representable_roundUnits (hm : m ≠ 0) (hs : m.log2 = 52 + s) (t : Nat)
    (ht : 53 + t = 2098) :
    Representable (roundUnits m 1) ↔ 2 * m < (2 ^ 54 - 1) * 2 ^ t := by
  obtain ⟨hlow, hhigh⟩ := divNearest_pow_bounds hm hs
  have hsignificant := mod_significant s hlow hhigh
  rw [← roundUnits_one hs] at hsignificant
  have hformat : Nat.pow 2 2098 = 2 ^ (53 + t) := by
    rw [← ht]
    rfl
  rw [Representable, hformat, ← roundUnits_lt_iff hm hs]
  exact and_iff_left hsignificant

/-- From here on integers are too large for a double: half a step past the largest one. -/
def magnitudeLimit : Nat := 2 ^ 1024 - 2 ^ 970

/-- The limit in units, twice over. -/
theorem lt_magnitudeLimit_iff (n : Nat) :
    n < magnitudeLimit ↔ 2 * (n * 2 ^ unitPower) < (2 ^ 54 - 1) * 2 ^ 2045 := by
  have hunits : 0 < 2 ^ unitPower := Nat.two_pow_pos _
  have hlimit : magnitudeLimit = (2 ^ 54 - 1) * 2 ^ 970 := by
    rw [magnitudeLimit, Nat.sub_mul, Nat.one_mul, ← Nat.pow_add]
  have hpow : 2 ^ 2045 = 2 * (2 ^ 970 * 2 ^ unitPower) := by
    rw [← Nat.pow_add, ← Nat.pow_succ', unitPower]
  rw [hlimit, hpow]
  generalize 2 ^ unitPower = unit at hunits
  generalize 2 ^ 970 = step
  have hright : (2 ^ 54 - 1) * (2 * (step * unit)) = 2 * ((2 ^ 54 - 1) * step * unit) := by ring
  rw [hright, Nat.mul_lt_mul_left (by decide : 0 < 2), Nat.mul_lt_mul_right hunits]

/-- **The integers that have a double near them** are those below the limit. -/
theorem isFinite_ofRatio_one (negative : Bool) (n : Nat) :
    (ofRatio negative n 1).isFinite = true ↔ n < magnitudeLimit := by
  have hfinite : (ofRatio negative n 1).isFinite = true ↔
      Representable (roundUnits (n * unitsPerOne) 1) := by
    simp only [ofRatio]
    split
    · next h => simp [isFinite, h]
    · next h => simp [isFinite, h]
  have hunits : unitsPerOne = 2 ^ unitPower := by
    unfold unitsPerOne
    generalize unitPower = power
    rfl
  rw [hfinite, lt_magnitudeLimit_iff, hunits]
  by_cases hn : n = 0
  · have hzero : roundUnits 0 1 = 0 := by simp [roundUnits, divNearest]
    rw [hn, Nat.zero_mul, hzero, Nat.mul_zero]
    have hpos (t : Nat) : 0 < (2 ^ 54 - 1) * 2 ^ t :=
      Nat.mul_pos (by decide) (Nat.two_pow_pos t)
    exact iff_of_true representable_zero (hpos 2045)
  · have hm : n * 2 ^ unitPower ≠ 0 := Nat.mul_ne_zero hn (Nat.two_pow_pos _).ne'
    have hs : (n * 2 ^ unitPower).log2 = 52 + (n.log2 + 1022) := by
      rw [log2_mul_pow hn, unitPower]
      omega
    exact representable_roundUnits hm hs 2045 rfl

end FieldRules.Number.Double
