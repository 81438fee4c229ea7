import FieldRules.Proofs.Check.Numbers
import FieldRules.Proofs.Number.Nearest
import FieldRules.Proofs.Validation.Outcome
import FieldRules.Rule.Normalize

/-!
# Proofs — Limits

What a limit on numbers says of an integer, be it submitted as an integer or as its digits. The
limit is kept as the integer that it is; the value is read off its text and is therefore the double
nearest to it (`limitReports_min`, `limitReports_max`), or no number at all from the end of
the format on (`limitReports_beyond`). The verdict is that of the two integers unless the rounding
crosses the limit (`limitReports_integer`).
-/

namespace FieldRules

open Number (Numeric)
open Number.Double (magnitudeLimit nearest RoundsAcross)

variable {n b : Int} {v : Value} {key : String}

/-! ## Integers as values -/

/-- The value is the integer, or the text of its digits. -/
def Value.Submits (v : Value) (n : Int) : Prop :=
  v = .int n ∧ Number.isWritable n = true ∨ v = .text (Number.integerText n)

theorem Value.Submits.asText (h : v.Submits n) : v.asText = Number.integerText n := by
  rcases h with ⟨rfl, -⟩ | rfl <;> rfl

theorem Value.Submits.isWritable (h : v.Submits n) : v.isWritable = true := by
  rcases h with ⟨rfl, hn⟩ | rfl
  · exact hn
  · rfl

theorem Value.Submits.isEmpty (h : v.Submits n) : v.isEmpty = false := by
  have hnull : v.isNull = false := by
    rcases h with ⟨rfl, -⟩ | rfl <;> rfl
  -- the last character is a digit
  have hdigit : ∃ c ∈ Number.integerChars n, Text.isBlank c = false := by
    obtain ⟨c, hc⟩ := List.exists_mem_of_ne_nil _ (Number.decimalDigits_ne_nil n.natAbs)
    refine ⟨c, ?_, Number.isBlank_of_isDigit (Number.isDigit_of_mem_decimalDigits hc)⟩
    unfold Number.integerChars
    split
    · exact List.mem_cons_of_mem _ hc
    · exact hc
  rw [Value.isEmpty, hnull, h.asText, Bool.false_or, Text.isBlankString, Number.integerText,
    String.toList_ofList]
  simpa using hdigit

/-- What is read off the value is the double nearest to the integer. -/
theorem Value.Submits.parse? (h : v.Submits n) : Number.parse? v.asText.toList =
    .ok (if n.natAbs < magnitudeLimit then some (Number.Double.ofInt n) else none) := by
  rw [h.asText, Number.integerText, String.toList_ofList, Number.parse?_integerChars_eq]

/-! ## A single constraint -/

/-- A rule that asks for one thing reports it where it does not hold. -/
theorem Rule.checkValue_single {r : Rule} {c : Constraint} (hcompiled : r.Compiled none)
    (hconstraints : r.constraints none = [c]) (hwritable : v.isWritable = true)
    (hempty : v.isEmpty = false) (hstops : ¬ c.Stops v.asText) (field : String) :
    r.checkValue field none v =
      .ok (if c.holds v.asText then none else some (r.report field c)) := by
  have hne : ¬ v.isEmpty = true := by simp [hempty]
  rcases Rule.checkValue_cases hcompiled field v with ⟨hstop, -⟩ | ⟨-, hverdict⟩
  · rw [Rule.Stops, hconstraints, Constraint.stopsAmong_cons] at hstop
    rcases hstop with hstop | ⟨-, hstop | ⟨-, hstop⟩⟩
    · rw [hwritable] at hstop
      cases hstop
    · exact absurd hstop hstops
    · exact absurd hstop Constraint.not_stopsAmong_nil
  · rw [hverdict, Rule.brokenReport?, if_neg hne, hconstraints]
    cases hholds : c.holds v.asText <;> simp [Constraint.firstBroken?, hholds]

/-! ## Rules with one limit -/

/-- The rule of a mapping with nothing but an integer limit reports that the limit is broken just
if `broken` holds. -/
def Rule.LimitReports (key : String) (b : Int) (limit : Numeric → Constraint) (v : Value)
    (broken : Prop) : Prop :=
  ∃ r, (Rule.normalize (.dict [(.text key, .int b)])).outcome = .ok r ∧
    ∀ field, (broken → r.checkValue field none v = .ok (some (r.report field (limit (.int b))))) ∧
      (¬ broken → r.checkValue field none v = .ok none)

namespace Rule

/-- The rule of a mapping with nothing but an integer limit asks for nothing else. -/
theorem exists_limit {limit : Numeric → Constraint}
    (hkey : key ∈ Attribute.minValue.spellings ∧ limit = .minValue ∨
      key ∈ Attribute.maxValue.spellings ∧ limit = .maxValue) :
    ∃ r : Rule, (Rule.normalize (.dict [(.text key, .int b)])).outcome = .ok r ∧
      r.Compiled none ∧ r.constraints none = [limit (.int b)] := by
  simp only [Attribute.spellings, List.mem_cons, List.not_mem_nil, or_false] at hkey
  rcases hkey with ⟨rfl | rfl, rfl⟩ | ⟨rfl | rfl, rfl⟩
  all_goals exact ⟨_, rfl, ⟨.null, rfl⟩, rfl⟩

/-- The verdict of a rule with one limit is that of its constraint. -/
theorem limitReports_of_holds {limit : Numeric → Constraint} {broken : Prop}
    (hkey : key ∈ Attribute.minValue.spellings ∧ limit = .minValue ∨
      key ∈ Attribute.maxValue.spellings ∧ limit = .maxValue)
    (hv : v.Submits n) (hstops : ¬ (limit (.int b)).Stops v.asText)
    (hholds : (limit (.int b)).holds v.asText = true ↔ ¬ broken) :
    LimitReports key b limit v broken := by
  obtain ⟨r, hr, hcompiled, hconstraints⟩ := exists_limit (b := b) hkey
  refine ⟨r, hr, fun field => ?_⟩
  have hverdict := checkValue_single hcompiled hconstraints hv.isWritable hv.isEmpty hstops field
  rw [hverdict]
  constructor
  · intro hbroken
    rw [if_neg fun h => hholds.mp h hbroken]
  · intro hbroken
    rw [if_pos (hholds.mpr hbroken)]

/-- A text that can be read leaves every limit with a verdict, if the limit can be written. -/
theorem not_stops_limit {limit : Numeric → Constraint} {text : String} {bound : Numeric}
    {x? : Option Number.Double} (hlimit : limit = .minValue ∨ limit = .maxValue)
    (hparse : Number.parse? text.toList = .ok x?)
    (hb : bound.isWritable = true ∨ (limit bound).holds text = true) :
    ¬ (limit bound).Stops text := by
  have hreadable := Constraint.readable_of_parse hparse
  have hwritable : ¬ ((limit bound).holds text = false ∧ bound.isWritable = false) := by
    rintro ⟨hbroken, hlong⟩
    rcases hb with hb | hb
    · exact Bool.eq_false_iff.mp hlong hb
    · exact Bool.eq_false_iff.mp hbroken hb
  rcases hlimit with rfl | rfl
  all_goals exact fun hstop => hstop.elim hreadable hwritable

/-- **The double nearest to the integer is compared** with a limit from below. -/
theorem limitReports_min (hkey : key ∈ Attribute.minValue.spellings) (hv : v.Submits n)
    (hb : Number.isWritable b = true) (hn : n.natAbs < magnitudeLimit) :
    LimitReports key b .minValue v (nearest n < b * Number.unitsPerOne) := by
  have hparse := hv.parse?
  rw [if_pos hn] at hparse
  refine limitReports_of_holds (.inl ⟨hkey, rfl⟩) hv (not_stops_limit (.inl rfl) hparse (.inl hb))
    ?_
  simp only [Constraint.holds, hparse, Number.below_int (Number.Double.place?_ofInt hn),
    Bool.not_eq_true', decide_eq_false_iff_not]

/-- **The double nearest to the integer is compared** with a limit from above. -/
theorem limitReports_max (hkey : key ∈ Attribute.maxValue.spellings) (hv : v.Submits n)
    (hb : Number.isWritable b = true) (hn : n.natAbs < magnitudeLimit) :
    LimitReports key b .maxValue v (b * Number.unitsPerOne < nearest n) := by
  have hparse := hv.parse?
  rw [if_pos hn] at hparse
  refine limitReports_of_holds (.inr ⟨hkey, rfl⟩) hv (not_stops_limit (.inr rfl) hparse (.inl hb))
    ?_
  simp only [Constraint.holds, hparse, Number.int_below (Number.Double.place?_ofInt hn),
    Bool.not_eq_true', decide_eq_false_iff_not]

/-- An integer without a double near it is no number, and no limit is looked at. -/
theorem limitReports_beyond {limit : Numeric → Constraint}
    (hkey : key ∈ Attribute.minValue.spellings ∧ limit = .minValue ∨
      key ∈ Attribute.maxValue.spellings ∧ limit = .maxValue)
    (hv : v.Submits n) (hn : magnitudeLimit ≤ n.natAbs) : LimitReports key b limit v False := by
  have hparse := hv.parse?
  rw [if_neg (Nat.not_lt.mpr hn)] at hparse
  have hholds : (limit (.int b)).holds v.asText = true := by
    rcases hkey with ⟨-, rfl⟩ | ⟨-, rfl⟩ <;> simp [Constraint.holds, hparse]
  exact limitReports_of_holds hkey hv
    (not_stops_limit (hkey.imp And.right And.right) hparse (.inr hholds))
    (iff_of_true hholds not_false)

theorem LimitReports.congr {limit : Numeric → Constraint} {p q : Prop}
    (h : LimitReports key b limit v p) (hpq : p ↔ q) : LimitReports key b limit v q := by
  rwa [← propext hpq]

/-- There is one verdict. -/
theorem LimitReports.unique {limit : Numeric → Constraint} {p q : Prop}
    (hp : LimitReports key b limit v p) (hq : LimitReports key b limit v q) : p ↔ q := by
  obtain ⟨r, hr, hreports⟩ := hp
  obtain ⟨r', hr', hothers⟩ := hq
  obtain rfl : r = r' := Except.ok.inj (hr.symm.trans hr')
  constructor
  · intro h
    refine Classical.byContradiction fun hnot => ?_
    cases ((hreports "").1 h).symm.trans ((hothers "").2 hnot)
  · intro h
    refine Classical.byContradiction fun hnot => ?_
    cases ((hothers "").1 h).symm.trans ((hreports "").2 hnot)

/-- **Limits are inclusive and exact on integers**, unless rounding crosses them. A rule with
nothing but an integer limit from below reports an integer, or its digits, exactly when the
integer is smaller, and one from above exactly when it is larger, provided that the double nearest
to the integer is finite and on the same side. This is so for every limit if a double holds the
integer, as one does up to `2 ^ 53`, and otherwise if the two are not within one part in `2 ^ 53` of
one another. An integer without a finite double near it is no number, and passes. -/
theorem limitReports_integer (hv : v.Submits n) (hb : Number.isWritable b = true) :
    (∀ key ∈ Attribute.minValue.spellings,
      (n.natAbs < magnitudeLimit → ¬ RoundsAcross n b → LimitReports key b .minValue v (n < b)) ∧
        (magnitudeLimit ≤ n.natAbs → LimitReports key b .minValue v False)) ∧
      (∀ key ∈ Attribute.maxValue.spellings,
        (n.natAbs < magnitudeLimit → ¬ RoundsAcross (-n) (-b) →
            LimitReports key b .maxValue v (b < n)) ∧
          (magnitudeLimit ≤ n.natAbs → LimitReports key b .maxValue v False)) ∧
      (Number.Representable (n.natAbs * Number.unitsPerOne) ∨
          n.natAbs < 2 ^ 53 * (n - b).natAbs →
        ¬ RoundsAcross n b ∧ ¬ RoundsAcross (-n) (-b)) ∧
      (n.natAbs ≤ 2 ^ 53 → Number.Representable (n.natAbs * Number.unitsPerOne)) := by
  refine ⟨fun key hkey => ⟨fun hn hside => ?_, limitReports_beyond (.inl ⟨hkey, rfl⟩) hv⟩,
    fun key hkey => ⟨fun hn hside => ?_, limitReports_beyond (.inr ⟨hkey, rfl⟩) hv⟩,
    fun h => ⟨Number.Double.not_roundsAcross h, Number.Double.not_roundsAcross ?_⟩,
    Number.Double.representable_of_le⟩
  · exact (limitReports_min hkey hv hb hn).congr (Number.Double.nearest_lt_iff hside)
  · refine (limitReports_max hkey hv hb hn).congr ?_
    have hmirror := Number.Double.nearest_lt_iff hside
    rw [Number.Double.nearest_neg, Int.neg_mul, Int.neg_lt_neg_iff, Int.neg_lt_neg_iff] at hmirror
    exact hmirror
  · have hdistance : (-n - -b).natAbs = (n - b).natAbs := by omega
    rwa [Int.natAbs_neg, hdistance]

/-- The first integer after `2 ^ 53` has no double of its own, but the third is far enough from it
to be a limit. -/
theorem limitReports_integer_close :
    LimitReports "minValue" 9007199254740995 .minValue (.text "9007199254740993")
      (9007199254740993 < (9007199254740995 : Int)) := by
  have hv : Value.Submits (.text "9007199254740993") 9007199254740993 :=
    .inr (congrArg Value.text (by decide +kernel))
  obtain ⟨hmin, -, hfar, -⟩ :=
    limitReports_integer (b := 9007199254740995) hv (by decide +kernel)
  exact (hmin "minValue" (by decide)).1 (by decide +kernel) (hfar (.inr (by decide))).1

/-- A limit can be refused where it is met, and passed by an integer beyond the doubles: the first
integer after `2 ^ 53` is read as its neighbour below, and a long integer as no number. -/
theorem limitReports_inexact :
    ¬ LimitReports "minValue" 9007199254740993 .minValue (.int 9007199254740993)
        (9007199254740993 < (9007199254740993 : Int)) ∧
      ¬ LimitReports "maxValue" 5 .maxValue (.int (10 ^ 400)) (5 < (10 ^ 400 : Int)) := by
  constructor
  · intro hexact
    have hv : Value.Submits (.int 9007199254740993) 9007199254740993 :=
      .inl ⟨rfl, by decide +kernel⟩
    have hrounded : LimitReports "minValue" 9007199254740993 .minValue (.int 9007199254740993)
        (nearest 9007199254740993 < 9007199254740993 * Number.unitsPerOne) :=
      limitReports_min (by decide) hv (by decide +kernel) (by decide +kernel)
    have hbelow : nearest 9007199254740993 < 9007199254740993 * Number.unitsPerOne := by
      decide +kernel
    exact Int.lt_irrefl _ ((hexact.unique hrounded).mpr hbelow)
  · intro hexact
    have hv : Value.Submits (.int (10 ^ 400)) (10 ^ 400) := .inl ⟨rfl, by decide +kernel⟩
    have hpassed : LimitReports "maxValue" 5 .maxValue (.int (10 ^ 400)) False :=
      limitReports_beyond (.inr ⟨by decide, rfl⟩) hv (by decide +kernel)
    exact (hexact.unique hpassed).mp (by decide +kernel)

end Rule
end FieldRules
