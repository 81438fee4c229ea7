import FieldRules.Proofs.Number.Nearest
import Mathlib.Algebra.Order.Field.Rat
import Mathlib.Algebra.Order.Ring.Abs
import Mathlib.Data.Nat.Cast.Order.Field
import Mathlib.Tactic.Linarith
import Mathlib.Tactic.LinearCombination
import Mathlib.Tactic.Positivity
import Mathlib.Tactic.Qify

/-!
# Proofs — Closest

Rounding a fraction of any size. A count of units is nearest to a number if no other count that
may be chosen is nearer, and the even one if another is as near (`IsNearest`). Rounding finds the
nearest count among those with at most fifty-three significant bits (`isNearest_roundUnits`); it
stays inside the format exactly below the limit, and then no other count that a double can hold is
the nearest (`eq_of_isNearest`).
-/

namespace FieldRules.Number.Double

variable {num den j k s t units : ℕ} {q : ℚ}

/-! ## Nearest counts -/

/-- The count is a nearest one to the number among those that may be chosen, and even if there is
a second one. -/
structure IsNearest (mayChoose isEven : ℕ → Prop) (k : ℕ) (q : ℚ) : Prop where
  mem : mayChoose k
  nearest : ∀ j, mayChoose j → |(k : ℚ) - q| ≤ |(j : ℚ) - q|
  even : ∀ j, mayChoose j → j ≠ k → |(j : ℚ) - q| = |(k : ℚ) - q| → isEven k

/-- Between a count that is not even and the next one, a half goes up. -/
theorem IsNearest.lt_iff {mayChoose isEven : ℕ → Prop} (h : IsNearest mayChoose isEven k q)
    {low high : ℕ} (hlow : mayChoose low) (hodd : ¬ isEven low) (hhigh : mayChoose high)
    (hlt : low < high) (hnext : ∀ j, mayChoose j → low < j → high ≤ j) :
    k < high ↔ 2 * q < low + high := by
  have hlt' : (low : ℚ) < high := Nat.cast_lt.mpr hlt
  constructor
  · intro hk
    have hle : k ≤ low := Nat.le_of_not_lt fun hgt => Nat.not_le.mpr hk (hnext k h.mem hgt)
    have hle' : (k : ℚ) ≤ low := Nat.cast_le.mpr hle
    by_contra hhalf
    rw [not_lt] at hhalf
    have hnearest := h.nearest high hhigh
    rw [abs_of_nonpos (by linarith : (k : ℚ) - q ≤ 0), le_abs] at hnearest
    rcases hnearest with hnear | hnear
    -- both are as near, so the lower one is even
    · have hkq : (k : ℚ) = low := by linarith
      obtain rfl : k = low := Nat.cast_injective hkq
      refine hodd (h.even high hhigh hlt.ne' ?_)
      rw [abs_of_nonneg (by linarith : (0 : ℚ) ≤ high - q),
        abs_of_nonpos (by linarith : (k : ℚ) - q ≤ 0)]
      linarith
    · linarith
  · intro hhalf
    by_contra hk
    have hk' : (high : ℚ) ≤ k := Nat.cast_le.mpr (Nat.le_of_not_lt hk)
    have hnearest := h.nearest low hlow
    rw [abs_of_nonneg (by linarith : (0 : ℚ) ≤ k - q), le_abs] at hnearest
    rcases hnearest with hnear | hnear <;> linarith

/-- A half goes to the even integer. -/
theorem divNearest_half (hden : 0 < den)
    (h : 2 * (divNearest num den * den) = 2 * num + den ∨
      2 * num = 2 * (divNearest num den * den) + den) : divNearest num den % 2 = 0 := by
  have hnum : num / den * den + num % den = num := by
    rw [Nat.mul_comm]
    exact Nat.div_add_mod num den
  have hsucc : (num / den + 1) * den = num / den * den + den := Nat.succ_mul _ _
  have hrest : num % den < den := Nat.mod_lt num hden
  revert h
  simp only [divNearest]
  split
  · omega
  · split
    · rw [hsucc]
      omega
    · split <;> omega

theorem abs_divNearest_sub (hden : 0 < den) (num : ℕ) :
    |(divNearest num den : ℚ) - num / den| ≤ 1 / 2 ∧
      (|(divNearest num den : ℚ) - num / den| = 1 / 2 → divNearest num den % 2 = 0) := by
  have hpos : (0 : ℚ) < den := Nat.cast_pos.mpr hden
  have hquotient : (num : ℚ) / den * den = num := div_mul_cancel₀ _ hpos.ne'
  obtain ⟨hlow, hhigh⟩ := divNearest_error num hden
  constructor
  · qify at hlow hhigh
    rw [abs_le, neg_le_sub_iff_le_add, sub_le_iff_le_add, div_le_iff₀ hpos]
    constructor <;> nlinarith
  · intro hhalf
    refine divNearest_half hden ?_
    qify
    rcases (abs_eq one_half_pos.le).mp hhalf with h | h
    · left
      linear_combination 2 * den * h + 2 * hquotient
    · right
      linear_combination -2 * den * h - 2 * hquotient

/-- **A quotient is rounded to the nearest integer.** -/
theorem isNearest_divNearest (hden : 0 < den) (num : ℕ) :
    IsNearest (fun _ => True) (· % 2 = 0) (divNearest num den) (num / den) := by
  obtain ⟨hhalf, heven⟩ := abs_divNearest_sub hden num
  -- every other integer is one away
  have hfar (j : ℕ) (hj : j ≠ divNearest num den) :
      1 - |(divNearest num den : ℚ) - num / den| ≤ |(j : ℚ) - num / den| := by
    have hne : (1 : ℤ) ≤ |(j : ℤ) - divNearest num den| := Int.one_le_abs (by omega)
    qify at hne
    have htriangle := abs_sub_le (j : ℚ) (num / den) (divNearest num den)
    rw [abs_sub_comm ((num : ℚ) / den)] at htriangle
    linarith
  refine ⟨trivial, fun j _ => ?_, fun j _ hj heq => heven ?_⟩
  · by_cases hj : j = divNearest num den
    · rw [hj]
    · have := hfar j hj
      linarith
  · have := hfar j hj
    linarith

/-! ## Significant bits -/

/-- The power of two that the last of fifty-three bits stands for. -/
def lastPlace (units : ℕ) : ℕ :=
  units.log2 - 52

theorem div_lastPlace_lt (units : ℕ) : units / 2 ^ lastPlace units < 2 ^ 53 := by
  rw [Nat.div_lt_iff_lt_mul (Nat.two_pow_pos _), ← Nat.pow_add]
  refine Nat.lt_of_lt_of_le Nat.lt_log2_self (Nat.pow_le_pow_right (by decide) ?_)
  rw [lastPlace]
  omega

/-- With bits to spare, the leading one of the fifty-three is set. -/
theorem le_of_lastPlace_ne_zero (h : lastPlace units ≠ 0) :
    2 ^ 52 * 2 ^ lastPlace units ≤ units := by
  have hzero : units ≠ 0 := by
    rintro rfl
    exact h (by simp [lastPlace])
  rw [← Nat.pow_add]
  refine Nat.le_trans (Nat.pow_le_pow_right (by decide) ?_) (Nat.log2_self_le hzero)
  rw [lastPlace] at h ⊢
  omega

/-- At most fifty-three significant bits, however large. -/
def IsSignificant (units : ℕ) : Prop :=
  units % 2 ^ lastPlace units = 0

/-- The last of the fifty-three bits is not set. -/
def IsEvenCount (units : ℕ) : Prop :=
  units / 2 ^ lastPlace units % 2 = 0

/-- The end of the format. The power is a variable, so that no step computes it. -/
theorem representable_iff (ht : 53 + t = 2098) :
    Representable units ↔ units < 2 ^ (53 + t) ∧ IsSignificant units := by
  rw [Representable, ← ht]
  exact Iff.rfl

theorem isEvenCount_zero : IsEvenCount 0 := by
  simp [IsEvenCount]

/-- A count in normal form: fifty-three bits, and all of them in use unless the count is small. -/
def IsNormal (k s : ℕ) : Prop :=
  k < 2 ^ 53 ∧ (s = 0 ∨ 2 ^ 52 ≤ k)

theorem IsNormal.lastPlace_mul_pow (h : IsNormal k s) : lastPlace (k * 2 ^ s) = s := by
  obtain ⟨hlt, rfl | hle⟩ := h
  · by_cases hk : k = 0
    · simp [hk, lastPlace]
    · have hlog : k.log2 < 53 := (Nat.log2_lt hk).mpr hlt
      rw [lastPlace, Nat.pow_zero, Nat.mul_one]
      omega
  · have hk : k ≠ 0 := by omega
    have hlog : k.log2 = 52 := (Nat.log2_eq_iff hk).mpr ⟨hle, hlt⟩
    rw [lastPlace, log2_mul_pow hk, hlog, Nat.add_sub_cancel_left]

theorem IsNormal.isEvenCount_iff (h : IsNormal k s) : IsEvenCount (k * 2 ^ s) ↔ k % 2 = 0 := by
  rw [IsEvenCount, h.lastPlace_mul_pow, Nat.mul_div_cancel _ (Nat.two_pow_pos s)]

/-- A carry leads to the next power of two. -/
theorem lastPlace_carry (s : ℕ) : lastPlace (2 ^ 53 * 2 ^ s) = s + 1 := by
  rw [lastPlace, ← Nat.pow_add, Nat.log2_two_pow]
  omega

theorem isEvenCount_carry (s : ℕ) : IsEvenCount (2 ^ 53 * 2 ^ s) := by
  have hform : 2 ^ 53 * 2 ^ s = 2 ^ 52 * 2 ^ (s + 1) := by ring
  rw [IsEvenCount, lastPlace_carry, hform, Nat.mul_div_cancel _ (Nat.two_pow_pos _)]
  decide

theorem isSignificant_mul_pow (hk : k ≤ 2 ^ 53) (s : ℕ) : IsSignificant (k * 2 ^ s) := by
  refine Nat.mod_eq_zero_of_dvd ?_
  rcases Nat.lt_or_eq_of_le hk with hlt | rfl
  · by_cases hzero : k = 0
    · simp [hzero]
    have hlog : k.log2 < 53 := (Nat.log2_lt hzero).mpr hlt
    rw [lastPlace, log2_mul_pow hzero]
    exact Nat.dvd_mul_left_of_dvd (Nat.pow_dvd_pow 2 (by omega)) k
  · have hform : 2 ^ 53 * 2 ^ s = 2 ^ 52 * 2 ^ (s + 1) := by ring
    rw [lastPlace_carry, hform]
    exact Nat.dvd_mul_left _ _

theorem IsSignificant.exists_normal (h : IsSignificant units) :
    ∃ k s, units = k * 2 ^ s ∧ IsNormal k s := by
  have hunits := Nat.div_mul_cancel (Nat.dvd_of_mod_eq_zero h)
  refine ⟨units / 2 ^ lastPlace units, lastPlace units, hunits.symm, div_lastPlace_lt units, ?_⟩
  rw [Nat.le_div_iff_mul_le (Nat.two_pow_pos _), or_iff_not_imp_left]
  exact le_of_lastPlace_ne_zero

/-- A count lies on the grid of a last place, or below the counts whose last place this is. -/
theorem IsSignificant.on_grid (h : IsSignificant units) (s : ℕ) :
    (∃ j, units = j * 2 ^ s) ∨ s ≠ 0 ∧ units < 2 ^ 52 * 2 ^ s := by
  obtain ⟨j, t, rfl, hj⟩ := h.exists_normal
  rcases Nat.lt_or_ge t s with hts | hst
  · refine .inr ⟨by omega, Nat.lt_of_lt_of_le
      (Nat.mul_lt_mul_of_pos_right hj.1 (Nat.two_pow_pos t)) ?_⟩
    rw [← Nat.pow_add, ← Nat.pow_add]
    exact Nat.pow_le_pow_right (by decide) (by omega)
  · exact .inl ⟨j * 2 ^ (t - s), by rw [Nat.mul_assoc, ← Nat.pow_add, Nat.sub_add_cancel hst]⟩

/-- **No count lies between** a count in normal form and the next one. -/
theorem IsNormal.succ_le (h : IsNormal k s) (hunits : IsSignificant units)
    (hlt : k * 2 ^ s < units) : (k + 1) * 2 ^ s ≤ units := by
  obtain ⟨j, rfl⟩ | ⟨hs, hbelow⟩ := hunits.on_grid s
  · exact Nat.mul_le_mul_right _ (Nat.lt_of_mul_lt_mul_right hlt)
  -- below the grid the other count is the smaller one
  · have hle := Nat.mul_le_mul_right (2 ^ s) (h.2.resolve_left hs)
    omega

/-! ## Rounding -/

/-- The bits that rounding keeps: fifty-three, or one carry more. -/
theorem divNearest_lastPlace (num den : ℕ) :
    divNearest num (den * 2 ^ lastPlace (num / den)) ≤ 2 ^ 53 ∧
      (lastPlace (num / den) = 0 ∨
        2 ^ 52 ≤ divNearest num (den * 2 ^ lastPlace (num / den)) ∧
          2 ^ 52 * 2 ^ lastPlace (num / den) ≤ num / den) := by
  obtain ⟨hlow, hhigh⟩ := divNearest_bounds num (den * 2 ^ lastPlace (num / den))
  rw [← Nat.div_div_eq_div_mul] at hlow hhigh
  have hlt := div_lastPlace_lt (num / den)
  refine ⟨by omega, or_iff_not_imp_left.mpr fun hplace => ?_⟩
  have hle := le_of_lastPlace_ne_zero hplace
  have hfloor := (Nat.le_div_iff_mul_le (Nat.two_pow_pos _)).mpr hle
  exact ⟨by omega, hle⟩

/-- Distances on the grid of a last place. -/
theorem abs_grid_sub (num den s j : ℕ) : |((j * 2 ^ s : ℕ) : ℚ) - num / den| =
    |(j : ℚ) - num / (den * 2 ^ s : ℕ)| * 2 ^ s := by
  have hpow : (0 : ℚ) < 2 ^ s := by positivity
  have hsub : ((j * 2 ^ s : ℕ) : ℚ) - num / den = (j - num / (den * 2 ^ s : ℕ)) * 2 ^ s := by
    push_cast
    rw [sub_mul, ← div_div, div_mul_cancel₀ _ hpow.ne']
  rw [hsub, abs_mul, abs_of_pos hpow]

/-- **Rounding finds the nearest count** of fifty-three significant bits. -/
theorem isNearest_roundUnits (hden : 0 < den) (num : ℕ) :
    IsNearest IsSignificant IsEvenCount (roundUnits num den) (num / den) := by
  have hround : roundUnits num den =
      divNearest num (den * 2 ^ lastPlace (num / den)) * 2 ^ lastPlace (num / den) := rfl
  obtain ⟨hcarry, hplace⟩ := divNearest_lastPlace num den
  have hfloor : ((num / den : ℕ) : ℚ) ≤ num / den := Nat.cast_div_le
  have hden' : 0 < den * 2 ^ lastPlace (num / den) := Nat.mul_pos hden (Nat.two_pow_pos _)
  have hnearest := isNearest_divNearest hden' num
  rw [hround]
  clear hround hden'
  generalize lastPlace (num / den) = s at *
  generalize divNearest num (den * 2 ^ s) = c at *
  have hpow : (0 : ℚ) < 2 ^ s := by positivity
  have hgrid (j : ℕ) : |((c * 2 ^ s : ℕ) : ℚ) - num / den| ≤
      |((j * 2 ^ s : ℕ) : ℚ) - num / den| := by
    rw [abs_grid_sub, abs_grid_sub]
    exact mul_le_mul_of_nonneg_right (hnearest.nearest j trivial) hpow.le
  -- a count off this grid is below it, and so is farther away than the start of the grid
  have hoff {k : ℕ} (hk : IsSignificant k) : (∃ j, k = j * 2 ^ s) ∨
      |((c * 2 ^ s : ℕ) : ℚ) - num / den| < |(k : ℚ) - num / den| := by
    refine (hk.on_grid s).imp_right fun ⟨hs, hbelow⟩ => (hgrid (2 ^ 52)).trans_lt ?_
    have hstart : ((2 ^ 52 * 2 ^ s : ℕ) : ℚ) ≤ num / den :=
      (Nat.cast_le.mpr (hplace.resolve_left hs).2).trans hfloor
    have hbelow' : (k : ℚ) < (2 ^ 52 * 2 ^ s : ℕ) := Nat.cast_lt.mpr hbelow
    rw [abs_of_nonpos (sub_nonpos.mpr hstart),
      abs_of_neg (sub_neg.mpr (hbelow'.trans_le hstart))]
    exact neg_lt_neg (sub_lt_sub_right hbelow' _)
  refine ⟨isSignificant_mul_pow hcarry s, fun k hk => ?_, fun k hk hne heq => ?_⟩
  · obtain ⟨j, rfl⟩ | hlt := hoff hk
    · exact hgrid j
    · exact hlt.le
  · obtain ⟨j, rfl⟩ | hlt := hoff hk
    · rw [abs_grid_sub, abs_grid_sub] at heq
      have hj : j ≠ c := by
        rintro rfl
        exact hne rfl
      have heven := hnearest.even j trivial hj (mul_right_cancel₀ hpow.ne' heq)
      rcases Nat.lt_or_eq_of_le hcarry with hlt | rfl
      · have hnormal : IsNormal c s := ⟨hlt, hplace.imp_right And.left⟩
        exact hnormal.isEvenCount_iff.mpr heven
      · exact isEvenCount_carry s
    · exact absurd heq hlt.ne'

/-! ## The end of the format -/

/-- **Rounding reaches a power of two** from half a step below it on: the half goes up, since the
count before the power is odd. -/
theorem IsNearest.lt_pow_iff (h : IsNearest IsSignificant IsEvenCount units q) (t : ℕ) :
    units < 2 ^ (53 + t) ↔ 2 * q < ((2 ^ 54 - 1) * 2 ^ t : ℕ) := by
  have hnormal : IsNormal (2 ^ 53 - 1) t := ⟨by decide, .inr (by decide)⟩
  have hpower : 2 ^ (53 + t) = (2 ^ 53 - 1 + 1) * 2 ^ t := Nat.pow_add 2 53 t
  have hsum : 2 ^ 53 - 1 + (2 ^ 53 - 1 + 1) = 2 ^ 54 - 1 := by decide
  have hmiddle : (2 ^ 54 - 1) * 2 ^ t = (2 ^ 53 - 1) * 2 ^ t + (2 ^ 53 - 1 + 1) * 2 ^ t := by
    rw [← Nat.add_mul, hsum]
  have hlow := isSignificant_mul_pow (k := 2 ^ 53 - 1) (by decide) t
  have hhigh := isSignificant_mul_pow (k := 2 ^ 53 - 1 + 1) (by decide) t
  have hodd : ¬ IsEvenCount ((2 ^ 53 - 1) * 2 ^ t) := by
    rw [hnormal.isEvenCount_iff]
    decide
  rw [hpower, hmiddle, Nat.cast_add]
  refine h.lt_iff hlow hodd hhigh ?_ fun j hj hlt => hnormal.succ_le hj hlt
  exact Nat.mul_lt_mul_of_pos_right (Nat.lt_succ_self _) (Nat.two_pow_pos t)

/-- Of two nearest counts both are even, and none that may be chosen lies between them. -/
theorem IsNearest.pair {mayChoose isEven : ℕ → Prop} {a b : ℕ} (ha : IsNearest mayChoose isEven a q)
    (hb : IsNearest mayChoose isEven b q) (hlt : a < b) :
    isEven a ∧ isEven b ∧ ∀ j, mayChoose j → ¬ (a < j ∧ j < b) := by
  have heq : |(a : ℚ) - q| = |(b : ℚ) - q| :=
    le_antisymm (ha.nearest b hb.mem) (hb.nearest a ha.mem)
  have hlt' : (a : ℚ) < b := Nat.cast_lt.mpr hlt
  refine ⟨ha.even b hb.mem hlt.ne' heq.symm, hb.even a ha.mem hlt.ne heq, ?_⟩
  rintro j hj ⟨haj, hjb⟩
  -- the number is halfway between the two
  have hmiddle : (a : ℚ) - q = -(b - q) := by
    rcases abs_eq_abs.mp heq with h | h
    · linarith
    · exact h
  have haj' : (a : ℚ) < j := Nat.cast_lt.mpr haj
  have hjb' : (j : ℚ) < b := Nat.cast_lt.mpr hjb
  have hnearest := ha.nearest j hj
  rw [abs_of_neg (by linarith : (a : ℚ) - q < 0), le_abs] at hnearest
  rcases hnearest with hnear | hnear <;> linarith

/-- **The nearest double is unique**: the next count after an even one is odd. -/
theorem eq_of_isNearest {a b : ℕ} (ha : IsNearest Representable IsEvenCount a q)
    (hb : IsNearest Representable IsEvenCount b q) : a = b := by
  wlog hlt : a < b generalizing a b
  · rcases Nat.lt_or_eq_of_le (Nat.le_of_not_lt hlt) with hgt | heq
    · exact (this hb ha hgt).symm
    · exact heq.symm
  exfalso
  obtain ⟨hevenA, hevenB, hbetween⟩ := ha.pair hb hlt
  obtain ⟨t, ht⟩ : ∃ t, 53 + t = 2098 := ⟨2045, rfl⟩
  obtain ⟨hformat, hsignificant⟩ := (representable_iff ht).mp hb.mem
  obtain ⟨k, s, rfl, hk⟩ := ((representable_iff ht).mp ha.mem).2.exists_normal
  rw [hk.isEvenCount_iff] at hevenA
  have hsucc := isSignificant_mul_pow (k := k + 1) hk.1 s
  have hstep : k * 2 ^ s < (k + 1) * 2 ^ s :=
    Nat.mul_lt_mul_of_pos_right (Nat.lt_succ_self k) (Nat.two_pow_pos s)
  rcases Nat.lt_or_eq_of_le (hk.succ_le hsignificant hlt) with hinside | rfl
  · have hfits := (representable_iff ht).mpr ⟨Nat.lt_trans hinside hformat, hsucc⟩
    exact hbetween _ hfits ⟨hstep, hinside⟩
  · have hnormal : IsNormal (k + 1) s := by
      have hlimit := hk.1
      exact ⟨by omega, hk.2.imp_right fun hle => by omega⟩
    rw [hnormal.isEvenCount_iff] at hevenB
    omega

/-! ## Doubles -/

/-- The double that a fraction is rounded to: the nearest one with the sign, or the infinite one
from the limit of the format on. -/
inductive RoundsTo (negative : Bool) (q : ℚ) : Double → Prop
  | finite {units : ℕ} (fits : Representable units) (hlt : q < magnitudeLimit)
      (hnearest : IsNearest Representable IsEvenCount units (q * unitsPerOne)) :
      RoundsTo negative q (.finite negative units fits)
  | infinite (hle : magnitudeLimit ≤ q) : RoundsTo negative q (.infinite negative)

/-- The limit of the format in units, twice over. -/
theorem lt_magnitudeLimit_iff_units (ht : 53 + t = 2098) (q : ℚ) :
    q < magnitudeLimit ↔ 2 * (q * unitsPerOne) < ((2 ^ 54 - 1) * 2 ^ t : ℕ) := by
  have hlimit : 2 * (magnitudeLimit * unitsPerOne) = (2 ^ 54 - 1) * 2 ^ t := by
    obtain rfl : t = 2045 := by omega
    decide +kernel
  have hpos : (0 : ℚ) < unitsPerOne := Nat.cast_pos.mpr unitsPerOne_pos
  rw [← hlimit, Nat.cast_mul, Nat.cast_mul, Nat.cast_ofNat, mul_lt_mul_iff_right₀ two_pos,
    mul_lt_mul_iff_left₀ hpos]

/-- **A fraction is rounded to the nearest double.** -/
theorem roundsTo_ofRatio (negative : Bool) (hden : 0 < den) (num : ℕ) :
    RoundsTo negative (num / den) (ofRatio negative num den) := by
  have hround := isNearest_roundUnits hden (num * unitsPerOne)
  have hvalue : ((num * unitsPerOne : ℕ) : ℚ) / den = num / den * unitsPerOne := by
    rw [Nat.cast_mul, mul_div_right_comm]
  rw [hvalue] at hround
  obtain ⟨t, ht⟩ : ∃ t, 53 + t = 2098 := ⟨2045, rfl⟩
  have hfits : Representable (roundUnits (num * unitsPerOne) den) ↔
      (num : ℚ) / den < magnitudeLimit := by
    rw [lt_magnitudeLimit_iff_units ht, ← hround.lt_pow_iff, representable_iff ht]
    exact and_iff_left hround.mem
  rw [ofRatio]
  generalize roundUnits (num * unitsPerOne) den = units at *
  by_cases fits : Representable units
  · rw [dif_pos fits]
    refine .finite fits (hfits.mp fits) ⟨fits, fun j hj => ?_, fun j hj => ?_⟩
    · exact hround.nearest j ((representable_iff ht).mp hj).2
    · exact hround.even j ((representable_iff ht).mp hj).2
  · rw [dif_neg fits]
    exact .infinite (not_lt.mp fun hlt => fits (hfits.mpr hlt))

end FieldRules.Number.Double
