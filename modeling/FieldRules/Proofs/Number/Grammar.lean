import FieldRules.Proofs.Number.Excess
import FieldRules.Proofs.Number.Numeral
import Mathlib.Data.Nat.Digits.Defs

/-!
# Proofs — Grammar

How literals are spelled. `Spells` is the grammar of numeric literals, apart from the reader: a
prefixed integer; or a sign, a mantissa and an exponent, of which the sign and the exponent may be
missing. The reader accepts the texts of the grammar and no others, white space at their ends
apart (`read?_eq_some`).
-/

namespace FieldRules.Number

/-- A number with a sign. -/
def withSign {α : Type} [Neg α] (negative : Bool) (a : α) : α :=
  if negative then -a else a

namespace Literal

variable {cs digits whole fraction : List Char} {negative : Bool} {exponent : Int} {l : Literal}

/-! ## The grammar -/

/-- Decimal digits, or nothing. -/
def AreDigits (cs : List Char) : Prop :=
  ∀ c ∈ cs, c.isDigit = true

/-- The number that digits denote by their places. -/
def placeValue (radix : Nat) (cs : List Char) : Nat :=
  Nat.ofDigits radix (cs.reverse.map fun c => (digitValue? c).getD 0)

/-- A sign that may be missing. -/
inductive IsSign : Bool → List Char → Prop
  | missing : IsSign false []
  | plus : IsSign false ['+']
  | minus : IsSign true ['-']

/-- Digits with an optional point and further digits, or a point followed by digits. -/
inductive IsMantissa : List Char → List Char → List Char → Prop
  | whole {whole : List Char} (hne : whole ≠ []) (hwhole : AreDigits whole) :
      IsMantissa whole [] whole
  | point {whole fraction : List Char} (hwhole : AreDigits whole) (hfraction : AreDigits fraction)
      (hne : whole ≠ [] ∨ fraction ≠ []) : IsMantissa whole fraction (whole ++ '.' :: fraction)

/-- A power of ten that may be missing. -/
inductive IsExponent : Int → List Char → Prop
  | missing : IsExponent 0 []
  | written {letter : Char} {negative : Bool} {sign digits : List Char}
      (hletter : letter = 'e' ∨ letter = 'E') (hsign : IsSign negative sign) (hne : digits ≠ [])
      (hdigits : AreDigits digits) :
      IsExponent (withSign negative (placeValue 10 digits : Int)) (letter :: (sign ++ digits))

/-- The letters that announce a radix after a leading zero. -/
def radixLetters : List (Char × Nat) :=
  [('x', 16), ('X', 16), ('b', 2), ('B', 2), ('o', 8), ('O', 8)]

/-- The text spells the literal. -/
inductive Spells : Literal → List Char → Prop
  | based {letter : Char} {radix : Nat} {digits : List Char}
      (hletter : (letter, radix) ∈ radixLetters) (hne : digits ≠ [])
      (hdigits : ∀ c ∈ digits, isDigitIn radix c = true) :
      Spells (.based radix digits) ('0' :: letter :: digits)
  | decimal {negative : Bool} {whole fraction sign mantissa power : List Char} {exponent : Int}
      (hsign : IsSign negative sign) (hmantissa : IsMantissa whole fraction mantissa)
      (hpower : IsExponent exponent power) :
      Spells (.decimal negative whole fraction exponent) (sign ++ (mantissa ++ power))

/-! ## Digits -/

theorem placeValue_cons (radix : Nat) (c : Char) (cs : List Char) :
    placeValue radix (c :: cs) =
      placeValue radix cs + radix ^ cs.length * (digitValue? c).getD 0 := by
  simp [placeValue, Nat.ofDigits_append]

/-- Reading digits from the left gives each its place. -/
theorem ofDigits_eq_placeValue (radix : Nat) (cs : List Char) :
    ofDigits radix cs = placeValue radix cs := by
  induction cs with
  | nil => rfl
  | cons c cs ih =>
      have hfirst : ofDigits radix [c] = (digitValue? c).getD 0 := by simp [ofDigits]
      rw [placeValue_cons, ← List.singleton_append, ofDigits_append, hfirst, ih]
      ring

theorem all_isDigitIn_ten : cs.all (isDigitIn 10) = true ↔ AreDigits cs := by
  rw [List.all_eq_true]
  exact forall₂_congr fun c _ => by rw [isDigitIn_ten]

/-- The digits at the front of a text are all that stand there. -/
theorem readDigits_append_snd (cs : List Char) :
    (readDigits cs).1 ++ (readDigits cs).2 = cs ∧ AreDigits (readDigits cs).1 := by
  rw [readDigits, List.span_eq_takeWhile_dropWhile]
  refine ⟨List.takeWhile_append_dropWhile, fun c hc => ?_⟩
  rw [← isDigitIn_ten]
  exact List.mem_takeWhile_imp hc

/-! ## Signs -/

theorem isSign_readSign (cs : List Char) :
    ∃ sign, IsSign (readSign cs).1 sign ∧ cs = sign ++ (readSign cs).2 := by
  unfold readSign
  split
  · exact ⟨_, .minus, rfl⟩
  · exact ⟨_, .plus, rfl⟩
  · exact ⟨_, .missing, rfl⟩

/-- A sign is read off a text that goes on with something else. -/
theorem IsSign.readSign_append {sign : List Char} (h : IsSign negative sign)
    (hcs : ∀ c ∈ cs.head?, c ≠ '-' ∧ c ≠ '+') : readSign (sign ++ cs) = (negative, cs) := by
  cases h with
  | missing =>
      unfold readSign
      split <;> simp_all
  | plus => rfl
  | minus => rfl

/-! ## Exponents -/

/-- **The reader of exponents follows the grammar.** -/
theorem readExponent?_eq_some : readExponent? cs = some exponent ↔ IsExponent exponent cs := by
  constructor
  · intro h
    unfold readExponent? at h
    split at h
    · obtain rfl := Option.some.inj h
      exact .missing
    · next letter rest =>
        obtain ⟨sign, hsign, hrest⟩ := isSign_readSign rest
        rcases hread : readSign rest with ⟨negative, digits⟩
        rw [hread] at hsign hrest h
        simp only [Bool.or_eq_true, beq_iff_eq] at h
        split at h
        · next hletter =>
            split at h
            · next hdigits =>
                simp only [Bool.and_eq_true, Bool.not_eq_true', List.isEmpty_eq_false_iff,
                  all_isDigitIn_ten] at hdigits
                obtain rfl := Option.some.inj h
                rw [ofDigits_eq_placeValue, hrest]
                exact .written hletter hsign hdigits.1 hdigits.2
            · cases h
        · cases h
  · intro h
    cases h with
    | missing => rfl
    | @written letter negative sign digits hletter hsign hne hdigits =>
        have hfirst : ∀ c ∈ digits.head?, c ≠ '-' ∧ c ≠ '+' := fun c hc =>
          have hdigit := hdigits c (List.mem_of_mem_head? hc)
          ⟨ne_of_isDigit hdigit rfl, ne_of_isDigit hdigit rfl⟩
        have hletter' : (letter == 'e' || letter == 'E') = true := by simpa using hletter
        have hdigits' : (!digits.isEmpty && digits.all (isDigitIn 10)) = true := by
          simpa [all_isDigitIn_ten.mpr hdigits] using hne
        simp only [readExponent?, hletter', hsign.readSign_append hfirst, hdigits', if_true,
          ofDigits_eq_placeValue]
        rfl

/-! ## Decimals -/

theorem readFraction_cases (cs : List Char) :
    (∃ tail, cs = '.' :: tail ∧ readFraction cs = readDigits tail) ∨
      readFraction cs = ([], cs) := by
  unfold readFraction
  split
  · exact .inl ⟨_, rfl, rfl⟩
  · exact .inr rfl

/-- The parts that the reader of decimals finds. -/
theorem readDecimal?_sound (h : readDecimal? cs = some l) : Spells l cs := by
  obtain ⟨sign, hsign, hcs⟩ := isSign_readSign cs
  rcases hread : readSign cs with ⟨negative, unsigned⟩
  obtain ⟨hunsigned, hwhole⟩ := readDigits_append_snd unsigned
  rcases hdigits : readDigits unsigned with ⟨whole, rest⟩
  rw [hread] at hsign hcs
  rw [hdigits] at hunsigned hwhole
  simp only [readDecimal?, hread, hdigits] at h
  rw [hcs, ← hunsigned]
  split at h
  · cases h
  · next hsome =>
      obtain ⟨exponent, hexponent, rfl⟩ := Option.map_eq_some_iff.mp h
      rw [readExponent?_eq_some] at hexponent
      simp only [Bool.and_eq_true, List.isEmpty_iff, not_and_or] at hsome
      obtain ⟨tail, rfl, hfraction⟩ | hfraction := readFraction_cases rest
      · obtain ⟨htail, hdigits'⟩ := readDigits_append_snd tail
        rcases hafter : readDigits tail with ⟨fraction, power⟩
        rw [hafter] at htail hdigits'
        rw [hfraction, hafter] at hsome hexponent ⊢
        have hform : whole ++ '.' :: tail = whole ++ '.' :: fraction ++ power := by
          rw [← htail, List.append_assoc, List.cons_append]
        rw [hform]
        exact .decimal hsign (.point hwhole hdigits' hsome) hexponent
      · rw [hfraction] at hsome hexponent ⊢
        exact .decimal hsign (.whole (by simpa using hsome) hwhole) hexponent

/-- A mantissa begins with a digit or the point, and the exponent with its letter. -/
theorem IsMantissa.head_ne {mantissa : List Char} (h : IsMantissa whole fraction mantissa)
    (power : List Char) : ∀ c ∈ (mantissa ++ power).head?, c ≠ '-' ∧ c ≠ '+' := by
  have hdigit {c : Char} (hc : c.isDigit = true) : c ≠ '-' ∧ c ≠ '+' :=
    ⟨ne_of_isDigit hc rfl, ne_of_isDigit hc rfl⟩
  intro c hc
  cases h with
  | whole hne hwhole =>
      obtain ⟨d, ds, rfl⟩ := List.exists_cons_of_ne_nil hne
      obtain rfl := Option.some.inj hc
      exact hdigit (hwhole d List.mem_cons_self)
  | point hwhole =>
      cases whole with
      | nil =>
          obtain rfl := Option.some.inj hc
          decide
      | cons d ds =>
          obtain rfl := Option.some.inj hc
          exact hdigit (hwhole d List.mem_cons_self)

/-- **The reader of decimals follows the grammar.** -/
theorem readDecimal?_eq_some :
    readDecimal? cs = some (.decimal negative whole fraction exponent) ↔
      Spells (.decimal negative whole fraction exponent) cs := by
  refine ⟨readDecimal?_sound, fun h => ?_⟩
  cases h with
  | @decimal _ _ _ sign mantissa power _ hsign hmantissa hpower =>
      have hsigned := hsign.readSign_append (hmantissa.head_ne power)
      have hexponent := readExponent?_eq_some.mpr hpower
      cases hmantissa with
      | whole hne hwhole => exact readDecimal?_whole hsigned hne hwhole hexponent
      | point hwhole hfraction hne =>
          rw [List.append_assoc, List.cons_append] at hsigned ⊢
          exact readDecimal?_point hsigned hne hwhole hfraction hexponent

/-! ## Prefixed integers -/

theorem radixOf?_eq_some {c : Char} {radix : Nat} :
    radixOf? c = some radix ↔ (c, radix) ∈ radixLetters := by
  simp only [radixOf?, radixLetters, Bool.or_eq_true, beq_iff_eq, List.mem_cons, Prod.mk.injEq,
    List.not_mem_nil, or_false]
  grind

/-- A decimal has no letter after its first zero that announces a radix. -/
theorem readDecimal?_radix {c : Char} {radix : Nat} (h : (c, radix) ∈ radixLetters)
    (digits : List Char) : readDecimal? ('0' :: c :: digits) = none := by
  simp only [radixLetters, List.mem_cons, Prod.mk.injEq, List.not_mem_nil, or_false] at h
  rcases h with ⟨rfl, -⟩ | ⟨rfl, -⟩ | ⟨rfl, -⟩ | ⟨rfl, -⟩ | ⟨rfl, -⟩ | ⟨rfl, -⟩ <;> rfl

/-- **The reader of literals follows the grammar**: it accepts what spells a literal, white space
at its ends apart. -/
theorem read?_eq_some : read? cs = some l ↔ Spells l (Text.trim cs) := by
  generalize hcs : Text.trim cs = trimmed
  cases l with
  | based radix digits =>
      rw [read?_eq_based, readBased?_eq_some, hcs]
      constructor
      · rintro ⟨c, radix', digits', rfl, hradix, hne, hdigits, heq⟩
        cases heq
        exact .based (radixOf?_eq_some.mp hradix) hne hdigits
      · intro h
        cases h with
        | based hletter hne hdigits =>
            exact ⟨_, _, _, rfl, radixOf?_eq_some.mpr hletter, hne, hdigits, rfl⟩
  | decimal negative whole fraction exponent =>
      rw [← readDecimal?_eq_some, read?, hcs]
      rcases hbased : readBased? trimmed with _ | literal
      · rfl
      -- what has a prefix is no decimal
      · obtain ⟨c, radix, digits, rfl, hradix, -, -, rfl⟩ := readBased?_eq_some.mp hbased
        rw [readDecimal?_radix (radixOf?_eq_some.mp hradix)]
        simp

/-! ## Characters -/

/-- The characters of literals that are no digits. -/
def marks : List Char :=
  ['+', '-', '.', 'e', 'E'] ++ radixLetters.map Prod.fst

/-- What holds of digits, be they decimal or not, and of the other characters of literals. -/
theorem Spells.forall_mem {p : Char → Prop} (h : Spells l cs)
    (hdigit : ∀ c, (digitValue? c).isSome = true → p c) (hmark : ∀ c ∈ marks, p c) :
    ∀ c ∈ cs, p c := by
  have hdecimal {ds : List Char} (hds : AreDigits ds) : ∀ c ∈ ds, p c := fun c hc =>
    hdigit c (by rw [digitValue?_of_isDigit (hds c hc)]; rfl)
  have hsigned {negative : Bool} {sign : List Char} (hsign : IsSign negative sign) :
      ∀ c ∈ sign, p c := by
    cases hsign with
    | missing => simp
    | plus => simpa using hmark '+' (by decide)
    | minus => simpa using hmark '-' (by decide)
  cases h with
  | based hletter _ hdigits =>
      simp only [List.forall_mem_cons]
      refine ⟨hdigit '0' rfl, hmark _ (List.mem_append_right _ (List.mem_map_of_mem hletter)),
        fun c hc => hdigit c ?_⟩
      have hvalue := hdigits c hc
      unfold isDigitIn at hvalue
      split at hvalue
      · next hsome => rw [hsome]; rfl
      · cases hvalue
  | decimal hsign hmantissa hpower =>
      simp only [List.forall_mem_append]
      refine ⟨hsigned hsign, ?_, ?_⟩
      · cases hmantissa with
        | whole _ hwhole => exact hdecimal hwhole
        | point hwhole hfraction =>
            simp only [List.forall_mem_append, List.forall_mem_cons]
            exact ⟨hdecimal hwhole, hmark '.' (by decide), hdecimal hfraction⟩
      · cases hpower with
        | missing => simp
        | written hletter hsign _ hdigits =>
            simp only [List.forall_mem_cons, List.forall_mem_append]
            refine ⟨?_, hsigned hsign, hdecimal hdigits⟩
            rcases hletter with rfl | rfl
            · exact hmark 'e' (by decide)
            · exact hmark 'E' (by decide)

theorem Spells.ne_nil (h : Spells l cs) : cs ≠ [] := by
  cases h with
  | based => simp
  | decimal _ hmantissa =>
      cases hmantissa with
      | whole hne => simp [hne]
      | point => simp

end Literal
end FieldRules.Number
