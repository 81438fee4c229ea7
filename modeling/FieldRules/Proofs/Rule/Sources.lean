import FieldRules.Proofs.Rule.Demands
import FieldRules.Proofs.Value.Mapping

/-!
# Proofs — Sources

What rules are like that come from a source. The limits of a normalized rule are integers, or
finite doubles with a fraction (`hasReducedLimits_normalize`); and a text, or a mapping without
`attrs`, `ui` and `render`, brings nothing to the markup but what its constraints and labels do
(`unadorned_normalize`).
-/

namespace FieldRules

/-! ## Limits -/

namespace Number

/-- A number as a rule keeps it: an integer, or a finite double with a fraction. -/
def Numeric.IsReduced : Numeric → Prop
  | .int _ => True
  | .double x => x.isFinite = true ∧ x.isIntegral = false

variable {x : Double} {y : Numeric} {cs : List Char}

theorem isReduced_toNumeric? (h : x.toNumeric? = some y) : y.IsReduced := by
  cases x with
  | finite negative units fits =>
      simp only [Double.toNumeric?, Double.truncate?, Option.some.injEq] at h
      subst h
      split
      · trivial
      · next hintegral => exact ⟨rfl, by simpa using hintegral⟩
  | _ => cases h

theorem isReduced_parseNumeric? (h : parseNumeric? cs = .ok (some y)) : y.IsReduced := by
  unfold parseNumeric? at h
  cases hparse : parse? cs with
  | error e =>
      rw [hparse] at h
      cases h
  | ok x? =>
      rw [hparse] at h
      obtain ⟨x, -, hx⟩ := Option.bind_eq_some_iff.mp (Except.ok.inj h)
      exact isReduced_toNumeric? hx

end Number

open Number (Numeric)

theorem liftExcess_eq_ok {α : Type} {x : Except Number.Excess α} {a : α} :
    liftExcess x = .ok a ↔ x = .ok a := by
  cases x <;> simp [liftExcess]

theorem Value.isReduced_limit? {v : Value} {y : Numeric} (h : v.limit? = .ok (some y)) :
    y.IsReduced := by
  unfold limit? at h
  split at h
  · cases h
  · cases h
  · rw [← Option.some.inj (Except.ok.inj h)]
    trivial
  · exact Number.isReduced_toNumeric? (Except.ok.inj h)
  · obtain ⟨s, -, hs⟩ := bind_eq_ok.mp (liftExcess_eq_ok.mp h)
    exact Number.isReduced_parseNumeric? hs

namespace Rule

/-- Both limits are as rules keep them. -/
structure HasReducedLimits (r : Rule) : Prop where
  minValue : ∀ y ∈ r.minValue, y.IsReduced
  maxValue : ∀ y ∈ r.maxValue, y.IsReduced

/-- A limit that a token sets is as rules keep it. -/
def Token.IsReduced : Token → Prop
  | .minValue bound => ∀ y ∈ bound, y.IsReduced
  | .maxValue bound => ∀ y ∈ bound, y.IsReduced
  | _ => True

variable {r q : Rule} {d : Dict} {raw : Value}

theorem isReduced_read {cs : List Char} {t : Token} (h : Token.read cs = .ok t) : t.IsReduced := by
  have hlimit {bound : Option Numeric} (hread : liftExcess
      (Number.parseNumeric? (splitToken cs).2) = .ok bound) : ∀ y ∈ bound, y.IsReduced := by
    rintro y rfl
    exact Number.isReduced_parseNumeric? (liftExcess_eq_ok.mp hread)
  simp only [Token.read] at h
  split at h
  case h_10 | h_11 | h_12 | h_13 =>
    obtain ⟨bound, hread, h⟩ := bind_eq_ok.mp h
    obtain rfl := Except.ok.inj h
    exact hlimit hread
  case h_8 | h_9 =>
    obtain ⟨bound, -, h⟩ := bind_eq_ok.mp h
    obtain rfl := Except.ok.inj h
    trivial
  all_goals
    obtain rfl := Except.ok.inj h
    trivial

theorem HasReducedLimits.apply (hr : r.HasReducedLimits) {t : Token} (ht : t.IsReduced) :
    (r.apply t).HasReducedLimits := by
  cases t with
  | minValue bound => exact ⟨ht, hr.maxValue⟩
  | maxValue bound => exact ⟨hr.minValue, ht⟩
  | pattern source =>
      rw [Rule.apply]
      split
      · exact hr
      · exact ⟨hr.minValue, hr.maxValue⟩
  | _ => exact ⟨hr.minValue, hr.maxValue⟩

theorem HasReducedLimits.applyTokens {tokens : List (List Char)} (hr : r.HasReducedLimits)
    (h : (applyTokens tokens r).outcome = .ok q) : q.HasReducedLimits := by
  induction tokens generalizing r with
  | nil =>
      cases h
      exact hr
  | cons cs rest ih =>
      rw [outcome_applyTokens_cons, bind_eq_ok] at h
      obtain ⟨t, ht, hrest⟩ := h
      exact ih (hr.apply (isReduced_read ht)) hrest

theorem hasReducedLimits_empty : Rule.empty.HasReducedLimits := by
  constructor <;> simp [Rule.empty]

theorem HasReducedLimits.ofDict (h : ofDict d = .ok r) : r.HasReducedLimits := by
  have hlimit {first : Option Value} {bound : Option Numeric}
      (hbound : Value.optionalBound Value.limit? first = .ok bound) : ∀ y ∈ bound, y.IsReduced := by
    rintro y rfl
    cases first with
    | none => cases hbound
    | some v => exact Value.isReduced_limit? hbound
  simp only [Rule.ofDict, bind_eq_ok] at h
  obtain ⟨type, -, min, -, max, -, minValue, hminValue, maxValue, hmaxValue, h⟩ := h
  obtain rfl := Except.ok.inj h
  exact ⟨hlimit hminValue, hlimit hmaxValue⟩

/-! ## Sources without markup of their own -/

theorem outcome_normalize_text (s : String) :
    (normalize (.text s)).outcome = (ofText s).outcome := by
  by_cases hs : s = ""
  · subst hs
    rfl
  · have hne : s.isEmpty = false := by simpa using hs
    simp [normalize, Value.truthy, hne]

theorem outcome_normalize_dict (d : Dict) : (normalize (.dict d)).outcome = ofDict d := by
  cases d <;> rfl

/-- The rule of a text is made by its tokens; afterwards it is known what they provided. -/
theorem normalize_text_eq_ok {s : String} (h : (normalize (.text s)).outcome = .ok r) :
    ∃ q, (applyTokens (splitTokens s.toList) Rule.empty).outcome = .ok q ∧
      r = { q with provided := q.explicit } := by
  simp only [outcome_normalize_text, ofText, Traced.outcome_bind_eq_ok, Traced.outcome_pure,
    Except.ok.injEq] at h
  obtain ⟨q, hq, rfl⟩ := h
  exact ⟨q, hq, rfl⟩

/-- A text, or a mapping without attributes, a presentation and a function that renders. -/
inductive IsBareSource : Value → Prop
  | text (s : String) : IsBareSource (.text s)
  | mapping {d : Dict} (hattrs : d.get? "attrs" = none) (hui : d.get? "ui" = none)
      (hrender : d.get? "render" = none) : IsBareSource (.dict d)

/-- The rule adds nothing to the markup of its field. -/
structure Unadorned (r : Rule) : Prop where
  attrs : r.attrs = []
  ui : r.ui = none
  renderOverride : r.renderOverride? = none

/-- The rule gives the markup no attributes, neither of its own nor by its presentation. -/
structure HasNoAttributes (r : Rule) : Prop where
  own : r.attrs = []
  presented : (r.ui.map Presentation.attrs).getD [] = []

theorem Unadorned.hasNoAttributes (h : r.Unadorned) : r.HasNoAttributes where
  own := h.attrs
  presented := by
    rw [h.ui]
    rfl

theorem beyondDemands_applyTokens {tokens : List (List Char)}
    (h : (applyTokens tokens r).outcome = .ok q) : q.beyondDemands = r.beyondDemands := by
  induction tokens generalizing r with
  | nil =>
      cases h
      rfl
  | cons cs rest ih =>
      rw [outcome_applyTokens_cons, bind_eq_ok] at h
      obtain ⟨token, -, hrest⟩ := h
      rw [ih hrest, beyondDemands_apply]

/-- **Normalized limits are integers or have a fraction.** -/
theorem hasReducedLimits_normalize (hraw : IsBareSource raw)
    (h : (normalize raw).outcome = .ok r) : r.HasReducedLimits := by
  cases hraw with
  | text s =>
      obtain ⟨q, hq, rfl⟩ := normalize_text_eq_ok h
      have hlimits := hasReducedLimits_empty.applyTokens hq
      exact ⟨hlimits.minValue, hlimits.maxValue⟩
  | mapping =>
      rw [outcome_normalize_dict] at h
      exact .ofDict h

/-- **Such a source adds nothing to the markup.** -/
theorem unadorned_normalize (hraw : IsBareSource raw) (h : (normalize raw).outcome = .ok r) :
    r.Unadorned := by
  cases hraw with
  | text s =>
      obtain ⟨q, hq, rfl⟩ := normalize_text_eq_ok h
      have hbeyond := beyondDemands_applyTokens hq
      have hui : q.ui = none := congrArg Rule.ui hbeyond
      have hextras : q.extras = [] := congrArg Rule.extras hbeyond
      refine ⟨congrArg Rule.attrs hbeyond, hui, ?_⟩
      simp [renderOverride?, hui, hextras, Dict.getD, Value.function?]
  | @mapping d hattrs hui hrender =>
      rw [outcome_normalize_dict] at h
      simp only [ofDict, bind_eq_ok] at h
      obtain ⟨type, -, min, -, max, -, minValue, -, maxValue, -, h⟩ := h
      obtain rfl := Except.ok.inj h
      constructor
      · simp [Dict.getD, hattrs, Value.dict?]
      · simp [Dict.getD, hui, Value.presentation?]
      · simp [renderOverride?, Dict.getD, hui, Dict.get?_without, hrender, Value.presentation?,
          Value.function?]

end Rule
end FieldRules
