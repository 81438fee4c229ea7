import FieldRules.Number.Literal
import FieldRules.Proofs.Number.Magnitude

/-!
# Proofs — Excess

The texts that cannot be turned into a number although they look like one. Two of the ways to
read a number end without a result: a prefixed integer past the largest double has no double
near it (`parse?_eq_ok`), and an integer at the front of a text can be too long to be read
(`leadingInteger?_eq_ok`). Everything else reads as a number or as none.
-/

namespace FieldRules.Number

/-! ## Prefixed integers -/

/-- A prefixed integer that is too large for a double. -/
def TooLarge (cs : List Char) : Prop :=
  ∃ c radix digits, Text.trim cs = '0' :: c :: digits ∧ Literal.radixOf? c = some radix ∧
    digits ≠ [] ∧ (∀ d ∈ digits, isDigitIn radix d = true) ∧
    Double.magnitudeLimit ≤ ofDigits radix digits

namespace Literal

theorem readBased?_eq_some {cs : List Char} {literal : Literal} :
    readBased? cs = some literal ↔
      ∃ c radix digits, cs = '0' :: c :: digits ∧ radixOf? c = some radix ∧ digits ≠ [] ∧
        (∀ d ∈ digits, isDigitIn radix d = true) ∧ literal = .based radix digits := by
  constructor
  · intro h
    unfold readBased? at h
    split at h
    · next c digits =>
        split at h
        · next radix hradix =>
            split at h
            · next hdigits =>
                simp only [Bool.and_eq_true, Bool.not_eq_true', List.isEmpty_eq_false_iff,
                  List.all_eq_true] at hdigits
                exact ⟨c, radix, digits, rfl, hradix, hdigits.1, hdigits.2,
                  (Option.some.inj h).symm⟩
            · cases h
        · cases h
    · cases h
  · rintro ⟨c, radix, digits, rfl, hradix, hne, hdigits, rfl⟩
    have hall : (!digits.isEmpty && digits.all (isDigitIn radix)) = true := by
      simp only [Bool.and_eq_true, Bool.not_eq_true', List.isEmpty_eq_false_iff,
        List.all_eq_true]
      exact ⟨hne, hdigits⟩
    simp only [readBased?, hradix, hall, if_true]

/-- A decimal has no prefix. -/
theorem readDecimal?_ne_based {cs digits : List Char} {radix : Nat} :
    readDecimal? cs ≠ some (.based radix digits) := by
  intro h
  simp only [readDecimal?] at h
  split at h
  · cases h
  · obtain ⟨exponent, -, hliteral⟩ := Option.map_eq_some_iff.mp h
    cases hliteral

theorem read?_eq_based {cs digits : List Char} {radix : Nat} :
    read? cs = some (.based radix digits) ↔
      readBased? (Text.trim cs) = some (.based radix digits) := by
  simp only [read?]
  cases hbased : readBased? (Text.trim cs) with
  | some literal => rfl
  | none => simpa using readDecimal?_ne_based

/-- Only a prefixed integer can be too large to be turned into a double. -/
theorem toDouble?_eq_ok {literal : Literal} :
    (∃ x?, literal.toDouble? = .ok x?) ↔
      ¬ ∃ radix digits, literal = .based radix digits ∧
        Double.magnitudeLimit ≤ ofDigits radix digits := by
  cases literal with
  | decimal negative whole fraction exponent => simp [toDouble?]
  | based radix digits =>
      have hfinite := Double.isFinite_ofRatio_one false (ofDigits radix digits)
      simp only [toDouble?]
      by_cases hx : (Double.ofRatio false (ofDigits radix digits) 1).isFinite = true
      · have hlt := hfinite.mp hx
        rw [if_pos hx]
        refine iff_of_true ⟨_, rfl⟩ ?_
        rintro ⟨radix', digits', heq, hle⟩
        cases heq
        omega
      · have hle : Double.magnitudeLimit ≤ ofDigits radix digits :=
          Nat.le_of_not_lt fun hlt => hx (hfinite.mpr hlt)
        rw [if_neg hx]
        refine iff_of_false ?_ fun h => h ⟨radix, digits, rfl, hle⟩
        rintro ⟨x?, h⟩
        cases h

theorem eq_magnitude_of_toDouble? {literal : Literal} {e : Excess}
    (h : literal.toDouble? = .error e) : e = .magnitude := by
  cases literal with
  | decimal negative whole fraction exponent => cases h
  | based radix digits =>
      simp only [toDouble?] at h
      split at h
      · cases h
      · exact (Except.error.inj h).symm

end Literal

/-- **Every text reads as a number or as none**, the too large ones apart. -/
theorem parse?_eq_ok {cs : List Char} : (∃ x?, parse? cs = .ok x?) ↔ ¬ TooLarge cs := by
  have hbased : TooLarge cs ↔ ∃ radix digits,
      Literal.read? cs = some (.based radix digits) ∧
        Double.magnitudeLimit ≤ ofDigits radix digits := by
    simp only [Literal.read?_eq_based, Literal.readBased?_eq_some, TooLarge]
    constructor
    · rintro ⟨c, radix, digits, htrim, hradix, hne, hdigits, hle⟩
      exact ⟨radix, digits, ⟨c, radix, digits, htrim, hradix, hne, hdigits, rfl⟩, hle⟩
    · rintro ⟨radix, digits, ⟨c, radix', digits', htrim, hradix, hne, hdigits, heq⟩, hle⟩
      cases heq
      exact ⟨c, radix, digits, htrim, hradix, hne, hdigits, hle⟩
  -- a decimal past the largest double reads as none
  rw [hbased, parse?]
  cases Literal.read? cs with
  | none => simp
  | some literal =>
      rw [Literal.toDouble?_eq_ok]
      simp

/-- A text that is no number in spite of its form is too large for one. -/
theorem parse?_eq_error {cs : List Char} {e : Excess} (h : parse? cs = .error e) :
    e = .magnitude ∧ TooLarge cs := by
  refine ⟨?_, Classical.byContradiction fun hsmall => ?_⟩
  · unfold parse? at h
    split at h
    · exact Literal.eq_magnitude_of_toDouble? h
    · cases h
  · obtain ⟨x?, hx⟩ := parse?_eq_ok.mpr hsmall
    rw [hx] at h
    cases h

theorem parseNumeric?_eq_ok {cs : List Char} :
    (∃ x?, parseNumeric? cs = .ok x?) ↔ ¬ TooLarge cs := by
  rw [← parse?_eq_ok, parseNumeric?]
  cases parse? cs <;> simp [Except.map]

/-! ## Long integers -/

/-- The digits of the integer at the front of a text. -/
def leadingDigits (cs : List Char) : List Char :=
  (Literal.readSign (cs.dropWhile isAsciiBlank)).2.takeWhile (isDigitIn 10)

/-- A text with an integer at its front that has too many digits. -/
def TooLong (cs : List Char) : Prop :=
  digitLimit < (leadingDigits cs).length

/-- **Every text has an integer at its front or none**, the too long ones apart. -/
theorem leadingInteger?_eq_ok {cs : List Char} :
    (∃ n?, leadingInteger? cs = .ok n?) ↔ ¬ TooLong cs := by
  rcases hsign : Literal.readSign (cs.dropWhile isAsciiBlank) with ⟨negative, unsigned⟩
  simp only [leadingInteger?, TooLong, leadingDigits, hsign]
  by_cases hempty : (unsigned.takeWhile (isDigitIn 10)).isEmpty = true
  · rw [if_pos hempty, List.isEmpty_iff.mp hempty]
    exact iff_of_true ⟨_, rfl⟩ (Nat.not_lt_zero digitLimit)
  rw [if_neg hempty]
  by_cases hlong : digitLimit < (unsigned.takeWhile (isDigitIn 10)).length
  · rw [if_pos hlong]
    refine iff_of_false ?_ (not_not_intro hlong)
    rintro ⟨n?, h⟩
    cases h
  · rw [if_neg hlong]
    exact iff_of_true ⟨_, rfl⟩ hlong

end FieldRules.Number
