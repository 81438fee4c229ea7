import FieldRules.Proofs.Number.Rounding
import FieldRules.Proofs.Text.Trimming
import FieldRules.Value.Text

/-!
# Proofs — Numeral

Reading numbers that were written. The text of a finite double is read as this double
(`parse?_chars`), wherever its digits stand around the point and with or without an exponent; the
digits of a double without a fraction are read as the double, too (`parseNumeric?_asText`).
-/

namespace FieldRules.Number

open Literal Decimal

variable {cs ds whole fraction tail : List Char} {negative : Bool} {exponent : Int} {x : Double}

/-! ## Characters of numbers -/

/-- The characters that numbers are written with. -/
def IsNumeral (cs : List Char) : Prop :=
  ∀ c ∈ cs, c.isDigit = true ∨ c ∈ ['-', '+', '.', 'e']

/-- What holds of digits, signs, the point and the letter of an exponent. -/
theorem IsNumeral.forall_mem {p : Char → Prop} (h : IsNumeral cs)
    (hdigit : ∀ c, c.isDigit = true → p c) (hminus : p '-') (hplus : p '+') (hpoint : p '.')
    (hletter : p 'e') : ∀ c ∈ cs, p c := by
  intro c hc
  rcases h c hc with hd | hmark
  · exact hdigit c hd
  · simp only [List.mem_cons, List.not_mem_nil, or_false] at hmark
    rcases hmark with rfl | rfl | rfl | rfl
    exacts [hminus, hplus, hpoint, hletter]

theorem IsNumeral.append {a b : List Char} (ha : IsNumeral a) (hb : IsNumeral b) :
    IsNumeral (a ++ b) := by
  intro c hc
  rcases List.mem_append.mp hc with h | h
  · exact ha c h
  · exact hb c h

theorem IsNumeral.cons {c : Char} (hc : c.isDigit = true ∨ c ∈ ['-', '+', '.', 'e'])
    (h : IsNumeral cs) : IsNumeral (c :: cs) :=
  List.forall_mem_cons.mpr ⟨hc, h⟩

theorem isNumeral_of_isDigit (h : ∀ c ∈ cs, c.isDigit = true) : IsNumeral cs :=
  fun c hc => .inl (h c hc)

theorem isDigit_zeros (n : Nat) : ∀ c ∈ List.replicate n '0', c.isDigit = true := by
  intro c hc
  rw [List.eq_of_mem_replicate hc]
  rfl

theorem isBlank_of_isDigit {c : Char} (h : c.isDigit = true) : Text.isBlank c = false := by
  have hlow : 48 ≤ c.toNat ∧ c.toNat ≤ 57 := by
    simp only [Char.isDigit, Bool.and_eq_true, decide_eq_true_eq] at h
    exact h
  simp [Text.isBlank, Text.blankRanges]
  omega

theorem radixOf?_of_isDigit {c : Char} (h : c.isDigit = true) : radixOf? c = none := by
  have hne (d : Char) (hd : d.isDigit = false) : c ≠ d := ne_of_isDigit h hd
  simp [radixOf?, hne 'x' rfl, hne 'X' rfl, hne 'b' rfl, hne 'B' rfl, hne 'o' rfl, hne 'O' rfl]

theorem IsNumeral.trim (h : IsNumeral cs) : Text.trim cs = cs := by
  refine Text.trim_of_not_blank (h.forall_mem (fun c hc => isBlank_of_isDigit hc) ?_ ?_ ?_ ?_)
  all_goals decide

/-- No letter announces a radix. -/
theorem IsNumeral.readBased? (h : IsNumeral cs) : Literal.readBased? cs = none := by
  unfold Literal.readBased?
  split
  · next c digits =>
      have hradix := h.forall_mem (fun _ hc => radixOf?_of_isDigit hc) rfl rfl rfl rfl
      rw [hradix c (by simp)]
  · rfl

/-- A number is read as a decimal. -/
theorem IsNumeral.read? (h : IsNumeral cs) : Literal.read? cs = readDecimal? cs := by
  rw [Literal.read?, h.trim, h.readBased?]
  rfl

/-! ## Parts of a decimal -/

/-- The text after a sign, if there is one. -/
def signed (negative : Bool) (cs : List Char) : List Char :=
  if negative then '-' :: cs else cs

theorem readSign_signed (hne : whole ≠ []) (hwhole : ∀ c ∈ whole, c.isDigit = true) :
    readSign (signed negative (whole ++ tail)) = (negative, whole ++ tail) := by
  obtain ⟨c, cs, rfl⟩ := List.exists_cons_of_ne_nil hne
  cases negative with
  | true => rfl
  | false => exact readSign_of_isDigit (hwhole c List.mem_cons_self) _

theorem IsNumeral.signed (h : IsNumeral cs) (negative : Bool) :
    IsNumeral (signed negative cs) := by
  cases negative with
  | true => exact .cons (by decide) h
  | false => exact h

/-- An exponent begins with its letter. -/
theorem head_of_readExponent? (h : readExponent? tail = some exponent) :
    ∀ c ∈ tail.head?, c = 'e' ∨ c = 'E' := by
  intro c hc
  cases tail with
  | nil => cases hc
  | cons d tail =>
      obtain rfl : d = c := Option.some.inj hc
      rw [readExponent?] at h
      split at h
      · next hletter => simpa using hletter
      · cases h

/-- An exponent ends the digits before it. -/
theorem not_isDigit_of_readExponent? (h : readExponent? tail = some exponent) :
    ∀ c ∈ tail.head?, c.isDigit = false := by
  intro c hc
  rcases head_of_readExponent? h c hc with rfl | rfl <;> rfl

/-- Digits without a point. -/
theorem readDecimal?_whole (hsign : readSign cs = (negative, whole ++ tail)) (hne : whole ≠ [])
    (hwhole : ∀ c ∈ whole, c.isDigit = true) (htail : readExponent? tail = some exponent) :
    readDecimal? cs = some (.decimal negative whole [] exponent) := by
  have hfraction : readFraction tail = ([], tail) := by
    cases tail with
    | nil => rfl
    | cons c tail =>
        have hpoint : c ≠ '.' := by
          rcases head_of_readExponent? htail c rfl with rfl | rfl <;> decide
        unfold readFraction
        split <;> simp_all
  have hne' : whole.isEmpty = false := by simpa using hne
  simp only [readDecimal?, hsign, readDigits_append hwhole (not_isDigit_of_readExponent? htail),
    hfraction, hne', Bool.false_and, Bool.false_eq_true, if_false, htail, Option.map_some]

/-- Digits around a point, on one of its sides at least. -/
theorem readDecimal?_point
    (hsign : readSign cs = (negative, whole ++ '.' :: (fraction ++ tail)))
    (hne : whole ≠ [] ∨ fraction ≠ []) (hwhole : ∀ c ∈ whole, c.isDigit = true)
    (hfraction : ∀ c ∈ fraction, c.isDigit = true) (htail : readExponent? tail = some exponent) :
    readDecimal? cs = some (.decimal negative whole fraction exponent) := by
  have hpoint : ∀ c ∈ ('.' :: (fraction ++ tail)).head?, c.isDigit = false := by
    intro c hc
    obtain rfl := Option.some.inj hc
    rfl
  have hne' : (whole.isEmpty && fraction.isEmpty) = false := by
    simpa [Decidable.imp_iff_not_or] using hne
  simp only [readDecimal?, hsign, readDigits_append hwhole hpoint, readFraction,
    readDigits_append hfraction (not_isDigit_of_readExponent? htail), hne', Bool.false_eq_true,
    if_false, htail, Option.map_some]

/-- The text of an exponent is read as it. -/
theorem readExponent?_exponentChars (e : Int) :
    readExponent? ('e' :: exponentChars e) = some e := by
  have hdigits : ∀ c ∈ decimalDigits e.natAbs, c.isDigit = true := fun c hc =>
    isDigit_of_mem_decimalDigits hc
  -- with a zero in front if there is one digit
  obtain ⟨ds, hds, hall, hne, hvalue⟩ : ∃ ds,
      exponentChars e = (if e < 0 then '-' else '+') :: ds ∧ (∀ c ∈ ds, c.isDigit = true) ∧
        ds ≠ [] ∧ ofDigits 10 ds = e.natAbs := by
    by_cases hshort : (decimalDigits e.natAbs).length < 2
    · refine ⟨'0' :: decimalDigits e.natAbs, by simp [exponentChars, hshort], ?_, by simp, ?_⟩
      · exact List.forall_mem_cons.mpr ⟨rfl, hdigits⟩
      · rw [← List.singleton_append, ← List.replicate_one, ofDigits_zeros_append,
          ofDigits_decimalDigits]
    · exact ⟨decimalDigits e.natAbs, by simp [exponentChars, hshort], hdigits,
        decimalDigits_ne_nil _, ofDigits_decimalDigits _⟩
  have hsign : readSign ((if e < 0 then '-' else '+') :: ds) = (decide (e < 0), ds) := by
    by_cases he : e < 0 <;> simp [he, readSign]
  have hall' : ds.all (isDigitIn 10) = true := by
    rw [List.all_eq_true]
    exact fun c hc => by rw [isDigitIn_ten, hall c hc]
  have hne' : (!ds.isEmpty && ds.all (isDigitIn 10)) = true := by simpa [hall'] using hne
  rw [hds, readExponent?]
  simp only [beq_self_eq_true, Bool.true_or, if_true, hsign, hne', hvalue]
  exact congrArg some (signed_natAbs e)

theorem isNumeral_exponentChars (e : Int) : IsNumeral ('e' :: exponentChars e) := by
  have hdigits := isNumeral_of_isDigit fun c hc => isDigit_of_mem_decimalDigits (n := e.natAbs) hc
  refine .cons (by decide) (.cons (by split <;> decide) ?_)
  split
  · exact .cons (.inl rfl) hdigits
  · exact hdigits

/-! ## Layouts -/

/-- A text that is read as a decimal with a finite double. -/
theorem parse?_decimal (hcs : IsNumeral cs)
    (hread : readDecimal? cs = some (.decimal negative whole fraction exponent))
    (hx : toDouble negative ⟨ofDigits 10 (whole ++ fraction), exponent - fraction.length⟩ = x)
    (hfinite : x.isFinite = true) : parse? cs = .ok (some x) := by
  simp only [parse?, hcs.read?, hread, Literal.toDouble?, hx, hfinite, if_true]

theorem parse?_whole (hne : whole ≠ []) (hwhole : ∀ c ∈ whole, c.isDigit = true)
    (htail : readExponent? tail = some exponent) (hnumeral : IsNumeral tail)
    (hx : toDouble negative ⟨ofDigits 10 whole, exponent⟩ = x) (hfinite : x.isFinite = true) :
    parse? (signed negative (whole ++ tail)) = .ok (some x) := by
  refine parse?_decimal (((isNumeral_of_isDigit hwhole).append hnumeral).signed negative)
    (readDecimal?_whole (readSign_signed hne hwhole) hne hwhole htail) ?_ hfinite
  simpa using hx

theorem parse?_point (hne : whole ≠ []) (hwhole : ∀ c ∈ whole, c.isDigit = true)
    (hfraction : ∀ c ∈ fraction, c.isDigit = true) (htail : readExponent? tail = some exponent)
    (hnumeral : IsNumeral tail)
    (hx : toDouble negative ⟨ofDigits 10 (whole ++ fraction), exponent - fraction.length⟩ = x)
    (hfinite : x.isFinite = true) :
    parse? (signed negative (whole ++ '.' :: (fraction ++ tail))) = .ok (some x) := by
  have hrest : IsNumeral ('.' :: (fraction ++ tail)) :=
    .cons (by decide) ((isNumeral_of_isDigit hfraction).append hnumeral)
  exact parse?_decimal (((isNumeral_of_isDigit hwhole).append hrest).signed negative)
    (readDecimal?_point (readSign_signed hne hwhole) (.inl hne) hwhole hfraction htail) hx
    hfinite

theorem isNumeral_nil : IsNumeral [] := by
  simp [IsNumeral]

/-- **Digits laid out around the point are read back**, wherever the point stands. -/
theorem parse?_layout (hne : ds ≠ []) (hds : ∀ c ∈ ds, c.isDigit = true) {point : Int}
    (hx : toDouble negative ⟨ofDigits 10 ds, point - ds.length⟩ = x)
    (hfinite : x.isFinite = true) : parse? (signed negative (layout ds point)) = .ok (some x) := by
  unfold layout
  split
  · split
    -- zeros between the point and the digits
    · next hpoint =>
        have hform : '0' :: '.' :: (List.replicate (-point).toNat '0' ++ ds) =
            ['0'] ++ '.' :: (List.replicate (-point).toNat '0' ++ ds ++ []) := by simp
        have hfraction : ∀ c ∈ List.replicate (-point).toNat '0' ++ ds, c.isDigit = true := by
          simp only [List.forall_mem_append]
          exact ⟨isDigit_zeros _, hds⟩
        rw [hform]
        refine parse?_point (by simp) (by simp) hfraction rfl isNumeral_nil ?_ hfinite
        have hvalue : ofDigits 10 (['0'] ++ (List.replicate (-point).toNat '0' ++ ds)) =
            ofDigits 10 ds := by
          rw [← List.replicate_one, ofDigits_zeros_append, ofDigits_zeros_append]
        have hexponent : 0 - ((List.replicate (-point).toNat '0' ++ ds).length : Int) =
            point - ds.length := by
          rw [List.length_append, List.length_replicate]
          omega
        rw [hvalue, hexponent, hx]
    · split
      -- zeros between the digits and the point
      · next hpoint hlength =>
          have hform : ds ++ List.replicate (point.toNat - ds.length) '0' ++ ['.', '0'] =
              ds ++ List.replicate (point.toNat - ds.length) '0' ++ '.' :: (['0'] ++ []) := rfl
          have hwhole : ∀ c ∈ ds ++ List.replicate (point.toNat - ds.length) '0',
              c.isDigit = true := by
            simp only [List.forall_mem_append]
            exact ⟨hds, isDigit_zeros _⟩
          rw [hform]
          refine parse?_point (by simp [hne]) hwhole (by simp) rfl isNumeral_nil ?_ hfinite
          have hvalue : ofDigits 10 (ds ++ List.replicate (point.toNat - ds.length) '0' ++ ['0']) =
              ofDigits 10 ds * 10 ^ (point.toNat - ds.length + 1) := by
            rw [List.append_assoc, ← List.replicate_one, List.replicate_append_replicate,
              ofDigits_append_zeros]
          have hexponent : 0 - (['0'].length : Int) + (point.toNat - ds.length + 1 : Nat) =
              point - ds.length := by
            simp only [List.length_singleton]
            omega
          rw [hvalue, toDouble_mul_pow, hexponent, hx]
      -- the point stands among the digits
      · next hpoint hlength =>
          have hform : ds.take point.toNat ++ '.' :: ds.drop point.toNat =
              ds.take point.toNat ++ '.' :: (ds.drop point.toNat ++ []) := by simp
          have hsome : ds.take point.toNat ≠ [] := by
            simp only [ne_eq, List.take_eq_nil_iff, hne, or_false]
            omega
          rw [hform]
          refine parse?_point hsome (fun c hc => hds c (List.mem_of_mem_take hc))
            (fun c hc => hds c (List.mem_of_mem_drop hc)) rfl isNumeral_nil ?_ hfinite
          have hexponent : 0 - ((ds.drop point.toNat).length : Int) = point - ds.length := by
            rw [List.length_drop]
            omega
          rw [List.take_append_drop, hexponent, hx]
  -- a power of ten follows the digits
  · have hpower := readExponent?_exponentChars (point - 1)
    have hnumeral := isNumeral_exponentChars (point - 1)
    split
    · exact absurd rfl hne
    · next d =>
        have hform : d :: 'e' :: exponentChars (point - 1) =
            [d] ++ 'e' :: exponentChars (point - 1) := rfl
        rw [hform]
        exact parse?_whole (by simp) hds hpower hnumeral hx hfinite
    · next d rest hrest =>
        have hform : d :: '.' :: (rest ++ 'e' :: exponentChars (point - 1)) =
            [d] ++ '.' :: (rest ++ 'e' :: exponentChars (point - 1)) := rfl
        obtain ⟨hd, hdigits⟩ := List.forall_mem_cons.mp hds
        rw [hform]
        refine parse?_point (by simp) (by simpa using hd) hdigits hpower hnumeral ?_ hfinite
        have hexponent : point - 1 - (rest.length : Int) = point - (d :: rest).length := by
          rw [List.length_cons]
          omega
        rw [hexponent]
        exact hx

/-! ## Doubles -/

/-- A number without the zeros at its end. -/
theorem exists_zeros (ds : List Char) : ∃ k,
    ds = (ds.reverse.dropWhile (· == '0')).reverse ++ List.replicate k '0' := by
  refine ⟨(ds.reverse.takeWhile (· == '0')).length, ?_⟩
  have hzeros : ds.reverse.takeWhile (· == '0') =
      List.replicate (ds.reverse.takeWhile (· == '0')).length '0' := by
    refine List.eq_replicate_of_mem fun c hc => ?_
    simpa using List.mem_takeWhile_imp hc
  rw [← List.reverse_inj, List.reverse_append, List.reverse_replicate, ← hzeros,
    List.reverse_reverse, List.takeWhile_append_dropWhile]

/-- A written decimal is read as the double that it is near to. -/
theorem parse?_decimalChars {d : Decimal} (hd : d.digits ≠ 0) (hx : d.toDouble negative = x)
    (hfinite : x.isFinite = true) : parse? (signed negative d.chars) = .ok (some x) := by
  obtain ⟨k, hk⟩ := exists_zeros (decimalDigits d.digits)
  have hall : ∀ c ∈ decimalDigits d.digits, c.isDigit = true := fun c hc =>
    isDigit_of_mem_decimalDigits hc
  simp only [Decimal.chars]
  generalize (((decimalDigits d.digits).reverse.dropWhile (· == '0')).reverse) = ds at hk ⊢
  have hvalue : d.digits = ofDigits 10 ds * 10 ^ k := by
    rw [← ofDigits_append_zeros, ← hk, ofDigits_decimalDigits]
  have hne : ds ≠ [] := by
    rintro rfl
    exact hd (hvalue.trans (Nat.zero_mul _))
  have hds : ∀ c ∈ ds, c.isDigit = true := fun c hc =>
    hall c (hk ▸ List.mem_append_left _ hc)
  refine parse?_layout hne hds ?_ hfinite
  have hexponent : d.exponent + ((decimalDigits d.digits).length : Int) - ds.length =
      d.exponent + k := by
    rw [hk, List.length_append, List.length_replicate]
    omega
  rw [hexponent, ← toDouble_mul_pow, ← hvalue]
  exact hx

/-- **The text of a finite double is read as it**, the sign of zero included. -/
theorem parse?_chars (hfinite : x.isFinite = true) : parse? x.chars = .ok (some x) := by
  cases x with
  | nan => cases hfinite
  | infinite negative => cases hfinite
  | finite negative units fits =>
      have hchars : (Double.finite negative units fits).chars =
          signed negative (if units = 0 then ['0', '.', '0'] else (shortest units).chars) := rfl
      rw [hchars]
      by_cases hunits : units = 0
      · subst hunits
        have hlayout : layout ['0'] 1 = ['0', '.', '0'] := rfl
        rw [if_pos rfl, ← hlayout]
        exact parse?_layout (by simp) (by simp) (toDouble_zero negative 0) rfl
      · rw [if_neg hunits]
        have hread := toDouble_shortest negative fits hunits
        refine parse?_decimalChars (fun hzero => ?_) hread rfl
        have hshortest : shortest units = ⟨0, (shortest units).exponent⟩ := by rw [← hzero]
        rw [hshortest, toDouble_zero] at hread
        exact hunits (Double.finite.inj hread).2.symm

/-! ## Written numbers -/

theorem isNumeral_layout (hds : ∀ c ∈ ds, c.isDigit = true) (point : Int) :
    IsNumeral (layout ds point) := by
  have hnumeral := isNumeral_of_isDigit hds
  have hzeros (n : Nat) := isNumeral_of_isDigit (isDigit_zeros n)
  unfold layout
  split
  · split
    · exact .cons (by decide) (.cons (by decide) ((hzeros _).append hnumeral))
    · split
      · have hpoint : IsNumeral ['.', '0'] := .cons (by decide) (.cons (by decide) isNumeral_nil)
        exact (hnumeral.append (hzeros _)).append hpoint
      · exact IsNumeral.append (fun c hc => hnumeral c (List.mem_of_mem_take hc))
          (.cons (by decide) fun c hc => hnumeral c (List.mem_of_mem_drop hc))
  · have hpower := isNumeral_exponentChars (point - 1)
    split
    · exact isNumeral_nil
    · exact .cons (hnumeral _ List.mem_cons_self) hpower
    · obtain ⟨hd, hrest⟩ := List.forall_mem_cons.mp hnumeral
      exact .cons hd (.cons (by decide) (IsNumeral.append hrest hpower))

theorem isNumeral_chars (hfinite : x.isFinite = true) : IsNumeral x.chars := by
  cases x with
  | nan => cases hfinite
  | infinite negative => cases hfinite
  | finite negative units fits =>
      refine IsNumeral.signed ?_ negative
      split
      · have hzero : layout ['0'] 1 = ['0', '.', '0'] := rfl
        rw [← hzero]
        exact isNumeral_layout (by simp) 1
      · refine isNumeral_layout (fun c hc => ?_) _
        have hc' := (List.dropWhile_sublist _).mem (List.mem_reverse.mp hc)
        exact isDigit_of_mem_decimalDigits (List.mem_reverse.mp hc')

theorem isNumeral_integerChars (n : Int) : IsNumeral (integerChars n) := by
  have hdigits := isNumeral_of_isDigit fun c hc => isDigit_of_mem_decimalDigits (n := n.natAbs) hc
  unfold integerChars
  split
  · exact .cons (by decide) hdigits
  · exact hdigits

/-! ## Numbers as values -/

theorem toList_asText_int (n : Int) : (Value.asText (.int n)).toList = integerChars n :=
  String.toList_ofList

/-- A double with a fraction has its own text. -/
theorem toList_asText_float (hintegral : x.isIntegral = false) :
    (Value.asText (.float x)).toList = x.chars := by
  have htext : Value.asText (.float x) = x.text := by
    simp only [Value.asText, hintegral]
    cases x.truncate? <;> rfl
  rw [htext, Double.text, String.toList_ofList]

/-- The double that an integer is. -/
theorem parse?_integerChars {n : Int} (h : Representable (n.natAbs * unitsPerOne)) :
    parse? (integerChars n) = .ok (some (.finite (decide (n < 0)) _ h)) := by
  have hchars : integerChars n = signed (decide (n < 0)) (decimalDigits n.natAbs ++ []) := by
    rw [integerChars, signed, List.append_nil]
    simp only [decide_eq_true_eq]
  have hread := toDouble_integer (decide (n < 0)) h
  rw [hchars]
  refine parse?_whole (decimalDigits_ne_nil _) (fun c hc => isDigit_of_mem_decimalDigits hc) rfl
    isNumeral_nil ?_ rfl
  rw [ofDigits_decimalDigits]
  exact hread

theorem toNumeric?_integer {n : Int} (h : Representable (n.natAbs * unitsPerOne)) :
    (Double.finite (decide (n < 0)) _ h).toNumeric? = some (.int n) := by
  have hintegral : (Double.finite (decide (n < 0)) _ h).isIntegral = true := by
    simp [Double.isIntegral]
  simp only [Double.toNumeric?, Double.truncate?, Nat.mul_div_cancel _ Double.unitsPerOne_pos,
    signed_natAbs, hintegral, if_true]

/-- A double without a fraction is an integer. -/
theorem exists_integer (hfinite : x.isFinite = true) (hintegral : x.isIntegral = true) :
    ∃ n : Int, x.truncate? = some n ∧ Representable (n.natAbs * unitsPerOne) := by
  cases x with
  | nan => cases hfinite
  | infinite negative => cases hfinite
  | finite negative units fits =>
      have hmod : units % unitsPerOne = 0 := by simpa [Double.isIntegral] using hintegral
      have habs (q : Nat) : (if negative then -(q : Int) else (q : Int)).natAbs = q := by
        cases negative <;> simp
      refine ⟨_, rfl, ?_⟩
      rw [habs, Nat.div_mul_cancel (Nat.dvd_of_mod_eq_zero hmod)]
      exact fits

/-- A limit is kept as an integer where it is one, and as the double otherwise. -/
theorem toNumeric?_cases {b : Numeric} (h : x.toNumeric? = some b) :
    (x.isIntegral = true ∧ ∃ n : Int, x.truncate? = some n ∧
      Representable (n.natAbs * unitsPerOne) ∧ b = .int n) ∨
    x.isIntegral = false ∧ b = .double x := by
  have hfinite : x.isFinite = true := by
    cases x with
    | finite => rfl
    | nan => cases h
    | infinite negative => cases h
  by_cases hintegral : x.isIntegral = true
  · obtain ⟨n, htruncate, hn⟩ := exists_integer hfinite hintegral
    simp only [Double.toNumeric?, htruncate, hintegral, if_true] at h
    exact .inl ⟨hintegral, n, htruncate, hn, (Option.some.inj h).symm⟩
  · rw [Bool.not_eq_true] at hintegral
    unfold Double.toNumeric? at h
    split at h
    · rw [hintegral] at h
      exact .inr ⟨hintegral, (Option.some.inj h).symm⟩
    · cases h

theorem isNumeral_asText (hfinite : x.isFinite = true) :
    IsNumeral (Value.asText (.float x)).toList := by
  have hchars := isNumeral_chars hfinite
  simp only [Value.asText]
  split
  · split
    · rw [integerText, String.toList_ofList]
      exact isNumeral_integerChars _
    · rwa [Double.text, String.toList_ofList]
  · rwa [Double.text, String.toList_ofList]

/-- **A finite double is read off its text as the number that it is.** -/
theorem parseNumeric?_asText (hfinite : x.isFinite = true) :
    parseNumeric? (Value.asText (.float x)).toList = .ok x.toNumeric? := by
  by_cases hintegral : x.isIntegral = true
  · obtain ⟨n, htruncate, hn⟩ := exists_integer hfinite hintegral
    have htext : Value.asText (.float x) = integerText n := by
      simp only [Value.asText, htruncate, hintegral, if_true]
    have hnumeric : x.toNumeric? = some (.int n) := by
      simp only [Double.toNumeric?, htruncate, hintegral, if_true]
    rw [htext, integerText, String.toList_ofList, parseNumeric?, parse?_integerChars hn, hnumeric,
      ← toNumeric?_integer hn]
    rfl
  · rw [toList_asText_float (by simpa using hintegral), parseNumeric?, parse?_chars hfinite]
    rfl

end FieldRules.Number
