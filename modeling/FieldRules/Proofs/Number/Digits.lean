import FieldRules.Number.Literal
import Mathlib.Data.List.TakeDrop
import Mathlib.Data.List.TakeWhile
import Mathlib.Tactic.Ring

/-!
# Proofs — Digits

Reading digits that were written. The decimal digits of a number denote it
(`ofDigits_decimalDigits`); zeros in front do not count, and zeros at the end are powers of the
radix. The integer at the front of an integer's text is that integer
(`leadingInteger?_integerChars`).
-/

namespace FieldRules.Number

/-! ## Digit strings -/

/-- A digit string that continues a number. -/
theorem foldl_digits (radix start : Nat) (cs : List Char) :
    cs.foldl (fun n c => n * radix + (digitValue? c).getD 0) start =
      start * radix ^ cs.length + ofDigits radix cs := by
  induction cs generalizing start with
  | nil => simp [ofDigits]
  | cons c cs ih =>
      rw [List.foldl_cons, ih]
      conv_rhs => rw [ofDigits, List.foldl_cons, ih]
      rw [List.length_cons, pow_succ]
      ring

theorem ofDigits_append (radix : Nat) (cs ds : List Char) :
    ofDigits radix (cs ++ ds) = ofDigits radix cs * radix ^ ds.length + ofDigits radix ds := by
  rw [ofDigits, List.foldl_append, foldl_digits]
  rfl

theorem ofDigits_zeros (radix n : Nat) : ofDigits radix (List.replicate n '0') = 0 := by
  induction n with
  | zero => rfl
  | succ n ih =>
      have hzero : ofDigits radix ['0'] = 0 := by simp [ofDigits, digitValue?]
      rw [List.replicate_succ', ofDigits_append, ih, hzero]
      simp

/-- Zeros in front do not count. -/
theorem ofDigits_zeros_append (radix n : Nat) (cs : List Char) :
    ofDigits radix (List.replicate n '0' ++ cs) = ofDigits radix cs := by
  rw [ofDigits_append, ofDigits_zeros, Nat.zero_mul, Nat.zero_add]

/-- Zeros at the end are powers of the radix. -/
theorem ofDigits_append_zeros (radix n : Nat) (cs : List Char) :
    ofDigits radix (cs ++ List.replicate n '0') = ofDigits radix cs * radix ^ n := by
  rw [ofDigits_append, ofDigits_zeros, List.length_replicate, Nat.add_zero]

/-! ## Decimal digits -/

/-- A digit is no other character. -/
theorem ne_of_isDigit {c d : Char} (h : c.isDigit = true) (hd : d.isDigit = false) : c ≠ d := by
  rintro rfl
  rw [h] at hd
  cases hd

theorem digitValue?_of_isDigit {c : Char} (h : c.isDigit = true) :
    digitValue? c = some (c.toNat - 48) := by
  have hc : ('0' ≤ c && c ≤ '9') = true := h
  rw [digitValue?, if_pos hc]

/-- The digits of radix ten are the decimal ones: the letters stand for ten and more. -/
theorem isDigitIn_ten (c : Char) : isDigitIn 10 c = c.isDigit := by
  by_cases h : c.isDigit = true
  · have hle : c.toNat ≤ 57 := by
      simp only [Char.isDigit, Bool.and_eq_true, decide_eq_true_eq] at h
      exact h.2
    have hvalue : c.toNat - 48 < 10 := by omega
    rw [isDigitIn, digitValue?_of_isDigit h, h]
    simpa using hvalue
  · rw [Bool.not_eq_true] at h
    have hc : ('0' ≤ c && c ≤ '9') = false := h
    rw [isDigitIn, digitValue?, hc, h]
    by_cases hlower : ('a' ≤ c && c ≤ 'f') = true
    · have hle : 97 ≤ c.toNat := by
        rw [Bool.and_eq_true, decide_eq_true_eq] at hlower
        exact hlower.1
      simp [hlower]
      omega
    by_cases hupper : ('A' ≤ c && c ≤ 'F') = true
    · have hle : 65 ≤ c.toNat := by
        rw [Bool.and_eq_true, decide_eq_true_eq] at hupper
        exact hupper.1
      simp [hlower, hupper]
      omega
    · simp [hlower, hupper]

theorem ofDigits_ten {cs : List Char} (h : ∀ c ∈ cs, c.isDigit = true) :
    ofDigits 10 cs = Nat.ofDigitChars 10 cs 0 := by
  induction cs with
  | nil => rfl
  | cons c cs ih =>
      obtain ⟨hc, hcs⟩ := List.forall_mem_cons.mp h
      have hsplit := @Nat.ofDigitChars_eq_ofDigitChars_zero cs (10 * 0 + (c.toNat - '0'.toNat))
      rw [ofDigits, List.foldl_cons, foldl_digits, ih hcs, digitValue?_of_isDigit hc,
        Nat.ofDigitChars_cons, hsplit]
      simp [Nat.mul_comm]

theorem isDigit_of_mem_decimalDigits {n : Nat} {c : Char} (h : c ∈ decimalDigits n) :
    c.isDigit = true :=
  Nat.isDigit_of_mem_toDigits (by decide) (by decide) h

/-- **The digits of a number denote it.** -/
theorem ofDigits_decimalDigits (n : Nat) : ofDigits 10 (decimalDigits n) = n := by
  rw [ofDigits_ten fun c hc => isDigit_of_mem_decimalDigits hc]
  exact Nat.ofDigitChars_ten_toDigits

theorem decimalDigits_ne_nil (n : Nat) : decimalDigits n ≠ [] :=
  Nat.toDigits_ne_nil

theorem decimalLength_le_iff {n k : Nat} (hk : 0 < k) : decimalLength n ≤ k ↔ n < 10 ^ k :=
  Nat.length_toDigits_le_iff (by decide) hk

/-- Ten times a number has one more zero at the end. -/
theorem decimalDigits_mul_pow {n : Nat} (hn : n ≠ 0) (k : Nat) :
    decimalDigits (n * 10 ^ k) = decimalDigits n ++ List.replicate k '0' := by
  induction k with
  | zero => simp
  | succ k ih =>
      have hpos : 0 < n * 10 ^ k := Nat.mul_pos (Nat.pos_of_ne_zero hn) (Nat.pow_pos (by decide))
      have hstep := Nat.toDigits_append_toDigits (b := 10) (d := 0) (by decide) hpos (by decide)
      have hten : n * 10 ^ (k + 1) = 10 * (n * 10 ^ k) + 0 := by ring
      rw [hten, decimalDigits, ← hstep, ← decimalDigits, ih, List.replicate_succ',
        ← List.append_assoc]
      rfl

theorem decimalLength_mul_pow {n : Nat} (hn : n ≠ 0) (k : Nat) :
    decimalLength (n * 10 ^ k) = decimalLength n + k := by
  rw [decimalLength, decimalDigits_mul_pow hn, List.length_append, List.length_replicate]
  rfl

/-! ## Reading -/

theorem readSign_of_isDigit {c : Char} (h : c.isDigit = true) (cs : List Char) :
    Literal.readSign (c :: cs) = (false, c :: cs) := by
  have hminus : c ≠ '-' := ne_of_isDigit h rfl
  have hplus : c ≠ '+' := ne_of_isDigit h rfl
  unfold Literal.readSign
  split <;> simp_all

/-- The digits at the front, where something else or nothing follows them. -/
theorem readDigits_append {ds rest : List Char} (hds : ∀ c ∈ ds, c.isDigit = true)
    (hrest : ∀ c ∈ rest.head?, c.isDigit = false) :
    Literal.readDigits (ds ++ rest) = (ds, rest) := by
  have hdigits : ∀ c ∈ ds, isDigitIn 10 c = true := fun c hc => by rw [isDigitIn_ten, hds c hc]
  have hstop : rest.takeWhile (isDigitIn 10) = [] ∧ rest.dropWhile (isDigitIn 10) = rest := by
    cases rest with
    | nil => exact ⟨rfl, rfl⟩
    | cons c rest =>
        have hc : isDigitIn 10 c = false := by rw [isDigitIn_ten, hrest c rfl]
        simp [hc]
  rw [Literal.readDigits, List.span_eq_takeWhile_dropWhile, List.takeWhile_append_of_pos hdigits,
    List.dropWhile_append_of_pos hdigits, hstop.1, hstop.2, List.append_nil]

/-! ## Integers -/

/-- The text of an integer is its sign and its digits. -/
theorem readSign_integerChars (n : Int) :
    Literal.readSign (integerChars n) = (decide (n < 0), decimalDigits n.natAbs) := by
  unfold integerChars
  by_cases hn : n < 0
  · rw [if_pos hn, decide_eq_true hn]
    rfl
  · obtain ⟨c, cs, hdigits⟩ := List.exists_cons_of_ne_nil (decimalDigits_ne_nil n.natAbs)
    have hc : c.isDigit = true := isDigit_of_mem_decimalDigits (hdigits ▸ List.mem_cons_self)
    rw [if_neg hn, decide_eq_false hn, hdigits, readSign_of_isDigit hc]

/-- A sign and the digits of a number make an integer. -/
theorem signed_natAbs (n : Int) :
    (if decide (n < 0) then -(n.natAbs : Int) else n.natAbs) = n := by
  by_cases hn : n < 0
  · rw [decide_eq_true hn, if_pos rfl]
    omega
  · rw [decide_eq_false hn, if_neg Bool.false_ne_true]
    omega

theorem isAsciiBlank_of_isDigit {c : Char} (h : c.isDigit = true) : isAsciiBlank c = false := by
  have hle : 48 ≤ c.toNat := by
    simp only [Char.isDigit, Bool.and_eq_true, decide_eq_true_eq] at h
    exact h.1
  have hspace : c ≠ ' ' := ne_of_isDigit h rfl
  simp [isAsciiBlank, hspace]
  omega

/-- The first character of an integer's text is a sign or a digit. -/
theorem dropWhile_integerChars (n : Int) :
    (integerChars n).dropWhile isAsciiBlank = integerChars n := by
  unfold integerChars
  by_cases hn : n < 0
  · rw [if_pos hn, List.dropWhile_cons_of_neg (by decide)]
  · obtain ⟨c, cs, hdigits⟩ := List.exists_cons_of_ne_nil (decimalDigits_ne_nil n.natAbs)
    have hc : c.isDigit = true := isDigit_of_mem_decimalDigits (hdigits ▸ List.mem_cons_self)
    rw [if_neg hn, hdigits, List.dropWhile_cons_of_neg (by simp [isAsciiBlank_of_isDigit hc])]

/-- **An integer is read off its text**, if it is short enough to be written. -/
theorem leadingInteger?_integerChars {n : Int} (h : isWritable n = true) :
    leadingInteger? (integerChars n) = .ok (some n) := by
  have hdigits : (decimalDigits n.natAbs).takeWhile (isDigitIn 10) = decimalDigits n.natAbs := by
    refine List.takeWhile_eq_self_iff.mpr fun c hc => ?_
    rw [isDigitIn_ten, isDigit_of_mem_decimalDigits hc]
  have hne : (decimalDigits n.natAbs).isEmpty = false := by
    simpa using decimalDigits_ne_nil n.natAbs
  have hshort : ¬ digitLimit < (decimalDigits n.natAbs).length := by
    have hle : decimalLength n.natAbs ≤ digitLimit := of_decide_eq_true h
    exact Nat.not_lt.mpr hle
  simp only [leadingInteger?, dropWhile_integerChars, readSign_integerChars, hdigits, hne,
    Bool.false_eq_true, if_false, if_neg hshort, ofDigits_decimalDigits]
  exact congrArg (fun m => Except.ok (some m)) (signed_natAbs n)

end FieldRules.Number
