import FieldRules.Proofs.Number.Reading
import FieldRules.Proofs.Rule.Sources
import FieldRules.Proofs.Rule.Wording
import FieldRules.Proofs.Validation.Limits

/-!
# Proofs — Thresholds

What a limit written into the text of a rule says of a number that comes as text. The limit is kept
as an integer or as a double and the value is compared as the double that it is read as, but both
lie where the literals do once these are rounded, so the verdict is the order of the two doubles,
however either of them is spelled (`normalize_threshold`).
-/

namespace FieldRules

open Number (Double Numeric)
open Number.Literal (Spells)

variable {x y : Double} {b : Numeric} {s t name : String} {cs : List Char}

/-! ## Order -/

namespace Number

/-- A finite double lies at its value, counted in units. -/
theorem exists_place_value (hx : x.isFinite = true) :
    ∃ d : ℤ, x.place? = some (.at d) ∧ x.value = d / unitsPerOne := by
  obtain ⟨negative, units, fits, rfl⟩ := Double.exists_finite hx
  cases negative with
  | false =>
      refine ⟨units, rfl, ?_⟩
      rw [Double.value, withSign, if_neg Bool.false_ne_true, Int.cast_natCast]
  | true =>
      refine ⟨-units, rfl, ?_⟩
      rw [Double.value, withSign, if_pos rfl, Int.cast_neg, Int.cast_natCast, neg_div]

/-- Doubles are compared as the numbers that they are. -/
theorem below_iff_value (hx : x.isFinite = true) (hy : y.isFinite = true) :
    (Numeric.double x).below (.double y) = true ↔ x.value < y.value := by
  obtain ⟨d, hplace, hvalue⟩ := exists_place_value hx
  obtain ⟨e, hplace', hvalue'⟩ := exists_place_value hy
  rw [hvalue, hvalue', div_lt_div_iff_of_pos_right Double.unit_pos, Int.cast_lt]
  simp [Numeric.below, Numeric.place?, hplace, hplace', Place.before]

/-- A double stays where it is when it is kept as an integer. -/
theorem place?_of_toNumeric? (h : y.toNumeric? = some b) :
    b.place? = (Numeric.double y).place? := by
  obtain ⟨hintegral, n, htruncate, -, rfl⟩ | ⟨-, rfl⟩ := toNumeric?_cases h
  · rw [Numeric.place?, Numeric.place?, place?_of_truncate htruncate hintegral]
  · rfl

/-! ## Texts of numbers -/

theorem isFinite_of_parse? (h : parse? cs = .ok (some x)) : x.isFinite = true := by
  obtain ⟨l, -, -, hclosest⟩ := parse?_eq_some.mp h
  exact hclosest.isFinite

/-- A text that is read as a number is a literal with white space around it. -/
theorem exists_spelled (h : parse? cs = .ok (some x)) :
    ∃ before literal after, Text.IsBlank before ∧ Text.IsBlank after ∧
      (∃ l, Spells l literal) ∧ before ++ literal ++ after = cs := by
  obtain ⟨l, hspells, -⟩ := parse?_eq_some.mp h
  obtain ⟨before, after, hbefore, hafter, hcs⟩ := Text.exists_padded cs
  exact ⟨before, _, after, hbefore, hafter, ⟨l, hspells⟩, hcs⟩

theorem parse?_trim (cs : List Char) : parse? (Text.trim cs) = parse? cs := by
  rw [parse?, parse?, Literal.read?, Literal.read?, Text.trim_trim]

/-- The integer that a double is kept as is short enough to be written. -/
theorem isWritable_of_toNumeric? (h : y.toNumeric? = some b) : b.isWritable = true := by
  obtain ⟨-, n, -, hfits, rfl⟩ | ⟨-, rfl⟩ := toNumeric?_cases h
  · have hlength : decimalLength n.natAbs ≤ 400 :=
      (decimalLength_le_iff (by decide)).mpr (Decimal.lt_of_representable hfits)
    exact decide_eq_true (Nat.le_trans hlength (by decide))
  · rfl

end Number

namespace Rule

/-- The text of a number does not end the token that it stands in. -/
theorem not_separator_of_parse? (h : Number.parse? cs = .ok (some x)) :
    ∀ c ∈ cs, isSeparator c = false := by
  obtain ⟨before, literal, after, hbefore, hafter, ⟨l, hspells⟩, rfl⟩ := Number.exists_spelled h
  have hblank {ds : List Char} (hds : Text.IsBlank ds) : ∀ c ∈ ds, isSeparator c = false :=
    fun c hc => (plain_of_isBlank (hds c hc)).1
  have hmarks : Number.Literal.marks.all (fun c => !isSeparator c) = true := rfl
  simp only [List.all_eq_true, Bool.not_eq_true'] at hmarks
  simp only [List.forall_mem_append]
  refine ⟨⟨hblank hbefore, hspells.forall_mem (fun c hc => ?_) hmarks⟩, hblank hafter⟩
  by_contra hseparator
  simp only [isSeparator, Bool.not_eq_false, Bool.or_eq_true, beq_iff_eq] at hseparator
  rcases hseparator with rfl | rfl <;> cases hc

theorem trim_ne_nil_of_parse? (h : Number.parse? cs = .ok (some x)) : Text.trim cs ≠ [] := by
  obtain ⟨l, hspells, -⟩ := Number.parse?_eq_some.mp h
  exact hspells.ne_nil

/-- The text of a number is not blank. -/
theorem isEmpty_of_parse? (h : Number.parse? t.toList = .ok (some x)) :
    (Value.text t).isEmpty = false := by
  have hblank : ¬ Text.IsBlank t.toList := fun hblank => trim_ne_nil_of_parse? h hblank.trim
  rw [Value.isEmpty_text, Text.isBlankString, ← Bool.not_eq_true, List.all_eq_true]
  exact hblank

/-! ## Rules with one limit -/

/-- A text without separators is one token. -/
theorem splitTokens_of_not_separator (h : ∀ c ∈ cs, isSeparator c = false)
    (hne : Text.trim cs ≠ []) : splitTokens cs = [Text.trim cs] := by
  simp [splitTokens, Text.splitOn_of_not_separator h, hne]

/-- The name of a token that sets a limit, and the constraint that the limit stands for. -/
def IsLimit (name : String) (limit : Numeric → Constraint) : Prop :=
  name ∈ Attribute.minValue.spellings ∧ limit = .minValue ∨
    name ∈ Attribute.maxValue.spellings ∧ limit = .maxValue

variable {limit : Numeric → Constraint}

theorem IsLimit.mem_names (h : IsLimit name limit) : name ∈ Token.names := by
  rcases h with ⟨hname, -⟩ | ⟨hname, -⟩
  all_goals
    simp only [Attribute.spellings, List.mem_cons, List.not_mem_nil, or_false] at hname
    rcases hname with rfl | rfl <;> decide

/-- A text of a name and a number is one token, with the number as its argument. -/
theorem splitTokens_argument (hname : name ∈ Token.names)
    (hs : Number.parse? s.toList = .ok (some y)) :
    ∃ token, splitTokens (name ++ ":" ++ s).toList = [token] ∧
      splitToken token = (name.toList, Text.trim s.toList) := by
  have hplain := plain_of_mem_names hname
  have hchars : (name ++ ":" ++ s).toList = name.toList ++ ':' :: s.toList := by simp
  rw [hchars]
  have hpiece : ∀ c ∈ name.toList ++ ':' :: s.toList, isSeparator c = false := by
    simp only [List.forall_mem_append, List.forall_mem_cons]
    exact ⟨fun c hc => (hplain c hc).1, rfl, not_separator_of_parse? hs⟩
  have hne : Text.trim (name.toList ++ ':' :: s.toList) ≠ [] := by
    rw [Text.trim_append_cons rfl]
    simp
  refine ⟨_, splitTokens_of_not_separator hpiece hne, ?_⟩
  rw [splitToken_trim, splitToken_append_cons fun c hc => (hplain c hc).2.1,
    trim_of_mem_names hname]

/-- The rule of a text with nothing but a limit asks for nothing else. -/
theorem exists_threshold (hname : IsLimit name limit) (hs : Number.parse? s.toList = .ok (some y))
    (hb : y.toNumeric? = some b) :
    ∃ r : Rule, (normalize (.text (name ++ ":" ++ s))).outcome = .ok r ∧ r.Compiled none ∧
      r.constraints none = [limit b] := by
  obtain ⟨token, htokens, hsplit⟩ := splitTokens_argument hname.mem_names hs
  have hread : Number.parseNumeric? (Text.trim s.toList) = .ok (some b) := by
    rw [Number.parseNumeric?, Number.parse?_trim, hs, ← hb]
    rfl
  have houtcome : (normalize (.text (name ++ ":" ++ s))).outcome =
      (ofText (name ++ ":" ++ s)).outcome := outcome_normalize_text _
  simp only [houtcome, ofText, Traced.outcome_bind, htokens, outcome_applyTokens_cons, Token.read,
    hsplit, String.ofList_toList]
  simp only [IsLimit, Attribute.spellings, List.mem_cons, List.not_mem_nil, or_false] at hname
  rcases hname with ⟨rfl | rfl, rfl⟩ | ⟨rfl | rfl, rfl⟩
  all_goals
    simp only [hread]
    exact ⟨_, rfl, ⟨.null, rfl⟩, rfl⟩

/-- The rule of the text reports a value just if `broken` holds, and then as past its limit. -/
def ThresholdReports (text : String) (y : Double) (limit : Numeric → Constraint) (t : String)
    (broken : Prop) : Prop :=
  ∃ r b, (normalize (.text text)).outcome = .ok r ∧ r.Compiled none ∧ y.toNumeric? = some b ∧
    ∀ field, (broken → r.checkValue field none (.text t) = .ok (some (r.report field (limit b)))) ∧
      (¬ broken → r.checkValue field none (.text t) = .ok none)

/-- The verdict of a rule with one limit is that of its constraint. -/
theorem thresholdReports_of_holds {broken : Prop} (hname : IsLimit name limit)
    (hs : Number.parse? s.toList = .ok (some y)) (ht : Number.parse? t.toList = .ok (some x))
    (hholds : ∀ b : Numeric, b.place? = (Numeric.double y).place? →
      ((limit b).holds t = true ↔ ¬ broken)) :
    ThresholdReports (name ++ ":" ++ s) y limit t broken := by
  have hy := Number.isFinite_of_parse? hs
  obtain ⟨b, hb⟩ : ∃ b, y.toNumeric? = some b := by
    obtain ⟨negative, units, fits, rfl⟩ := Double.exists_finite hy
    exact ⟨_, rfl⟩
  obtain ⟨r, hr, hcompiled, hconstraints⟩ := exists_threshold hname hs hb
  have hstops := not_stops_limit (hname.imp And.right And.right) ht
    (.inl (Number.isWritable_of_toNumeric? hb))
  have hverdict := hholds b (Number.place?_of_toNumeric? hb)
  refine ⟨r, b, hr, hcompiled, hb, fun field => ?_⟩
  rw [checkValue_single hcompiled hconstraints rfl (isEmpty_of_parse? ht) hstops field]
  constructor
  · intro hbroken
    exact congrArg Except.ok (if_neg fun h => hverdict.mp h hbroken)
  · intro hbroken
    exact congrArg Except.ok (if_pos (hverdict.mpr hbroken))

theorem thresholdReports_min (hname : name ∈ Attribute.minValue.spellings)
    (hs : Number.parse? s.toList = .ok (some y)) (ht : Number.parse? t.toList = .ok (some x)) :
    ThresholdReports (name ++ ":" ++ s) y .minValue t (x.value < y.value) := by
  refine thresholdReports_of_holds (.inl ⟨hname, rfl⟩) hs ht fun b hb => ?_
  have hbelow : (Numeric.double x).below b = (Numeric.double x).below (.double y) := by
    simp only [Numeric.below, hb]
  rw [← Number.below_iff_value (Number.isFinite_of_parse? ht) (Number.isFinite_of_parse? hs)]
  simp only [Constraint.holds, ht, hbelow, Bool.not_eq_true', Bool.not_eq_true]

theorem thresholdReports_max (hname : name ∈ Attribute.maxValue.spellings)
    (hs : Number.parse? s.toList = .ok (some y)) (ht : Number.parse? t.toList = .ok (some x)) :
    ThresholdReports (name ++ ":" ++ s) y .maxValue t (y.value < x.value) := by
  refine thresholdReports_of_holds (.inr ⟨hname, rfl⟩) hs ht fun b hb => ?_
  have habove : b.below (.double x) = (Numeric.double y).below (.double x) := by
    simp only [Numeric.below, hb]
  rw [← Number.below_iff_value (Number.isFinite_of_parse? hs) (Number.isFinite_of_parse? ht)]
  simp only [Constraint.holds, ht, habove, Bool.not_eq_true', Bool.not_eq_true]

/-- A limit is included. -/
theorem thresholdReports_equal (hname : IsLimit name limit)
    (hs : Number.parse? s.toList = .ok (some y)) (ht : Number.parse? t.toList = .ok (some x))
    (heq : x.value = y.value) : ThresholdReports (name ++ ":" ++ s) y limit t False := by
  have hnever {p : Prop} (hp : ¬ p) : p = False := propext (iff_false_intro hp)
  rcases hname with ⟨hname, rfl⟩ | ⟨hname, rfl⟩
  · rw [← hnever heq.not_lt]
    exact thresholdReports_min hname hs ht
  · rw [← hnever heq.not_gt]
    exact thresholdReports_max hname hs ht

/-- **A limit compares two literals as the doubles that they are read as**, whatever spelling
either of them has. A rule with nothing but a limit from below, written with a text that is read as
a number, reports another such text exactly when its double is the smaller one, and one from above
exactly when it is the larger one. So both accept every text that is read as the number of the
limit, and the text of the limit itself. -/
theorem normalize_threshold (hs : Number.parse? s.toList = .ok (some y))
    (ht : Number.parse? t.toList = .ok (some x)) :
    (∀ name ∈ Attribute.minValue.spellings,
      ThresholdReports (name ++ ":" ++ s) y .minValue t (x.value < y.value)) ∧
    (∀ name ∈ Attribute.maxValue.spellings,
      ThresholdReports (name ++ ":" ++ s) y .maxValue t (y.value < x.value)) ∧
    ∀ name limit, IsLimit name limit →
      (x.value = y.value → ThresholdReports (name ++ ":" ++ s) y limit t False) ∧
        ThresholdReports (name ++ ":" ++ s) y limit s False :=
  ⟨fun _ hname => thresholdReports_min hname hs ht,
    fun _ hname => thresholdReports_max hname hs ht,
    fun _ _ hname => ⟨thresholdReports_equal hname hs ht, thresholdReports_equal hname hs hs rfl⟩⟩

/-- A limit in hexadecimal, and a decimal below it with white space around it. -/
theorem normalize_threshold_hex :
    (Double.ofInt 15).value < (Double.ofInt 16).value ∧
      ThresholdReports "minValue:0x10" (.ofInt 16) .minValue " 1.5e1\n"
        ((Double.ofInt 15).value < (Double.ofInt 16).value) := by
  have hs : Number.parse? "0x10".toList = .ok (some (.ofInt 16)) := by decide +kernel
  have ht : Number.parse? " 1.5e1\n".toList = .ok (some (.ofInt 15)) := by decide +kernel
  obtain ⟨hmin, -, -⟩ := normalize_threshold hs ht
  refine ⟨?_, hmin "minValue" (by decide)⟩
  rw [← Number.below_iff_value (Number.isFinite_of_parse? ht) (Number.isFinite_of_parse? hs)]
  decide +kernel

end Rule
end FieldRules
