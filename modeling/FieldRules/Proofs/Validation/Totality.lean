import FieldRules.Proofs.Rule.Normalization
import FieldRules.Proofs.Validation.Fields

/-!
# Proofs — Totality

When a validation ends with a result. Patterns that compile given, there are two ways to end
without one: a rule that does not exist because a bound in it is past the limits
(`Rule.Exceeds`), and a value on which the built-in checks stop because it is too large to be
read or too long to be written (`FieldStops`). Prefixed integers past the largest double are among
both, for rules and for values of any shape.
-/

namespace FieldRules

variable {validators : Validators} {data rules : Value} {record : Dict} {entries : Rules}
  {prepared : List Prepared}

/-- The pattern of the rule compiles, if there is a rule. -/
def PatternCompiles (e : Value × Value) : Prop :=
  ∀ r, (Rule.normalize e.2).outcome = .ok r → ∃ pattern, r.compiledPattern e.1 = .ok pattern

/-- The built-in checks of the rule stop on the value of the field. -/
def FieldStops (record : Dict) (e : Value × Value) : Prop :=
  ∃ r pattern, (Rule.normalize e.2).outcome = .ok r ∧
    r.compiledPattern e.1 = .ok pattern ∧ r.Stops pattern (record.find e.1)

/-! ## Preparing and running -/

theorem Prepared.exists_make {e : Value × Value} (hpattern : PatternCompiles e) :
    (∃ p, (Prepared.make e.1 e.2).outcome = .ok p) ↔ ¬ Rule.Exceeds e.2 := by
  rw [← Rule.normalize_eq_ok]
  constructor
  · rintro ⟨p, hp⟩
    exact ⟨p.rule, (Prepared.make_eq_ok.mp hp).2.1⟩
  · rintro ⟨r, hr⟩
    obtain ⟨pattern, hcompiled⟩ := hpattern r hr
    exact ⟨⟨e.1, r, pattern⟩, Prepared.make_eq_ok.mpr ⟨rfl, hr, hcompiled⟩⟩

/-- A field that cannot start leaves a fault, whatever the other fields do. -/
theorem Validation.startAll_of_error {p : Prepared} {e : Fault} (hp : p ∈ prepared)
    (h : p.start data = .error e) : (startAll data prepared).2 ≠ none := by
  induction prepared with
  | nil => cases hp
  | cons q rest ih =>
      simp only [startAll]
      rcases List.mem_cons.mp hp with rfl | hmem
      · rw [h]
        exact Option.some_ne_none e
      · cases q.start data with
        | ok stage => exact ih hmem
        | error e' => exact Option.some_ne_none e'

theorem Validation.exists_run (hdata : data.record = .ok record)
    (hcompiled : ∀ p ∈ prepared, p.rule.Compiled p.pattern) :
    (∃ v, (run validators data prepared).outcome = .ok v) ↔
      ∀ p ∈ prepared, p.IsDecided record := by
  constructor
  · rintro ⟨v, hv⟩ p hp
    refine Classical.byContradiction fun hd => ?_
    obtain ⟨e, he⟩ := Prepared.start_eq_error hdata (hcompiled p hp) hd
    obtain ⟨e', he'⟩ := Option.ne_none_iff_exists'.mp (startAll_of_error hp he)
    simp only [run, he'] at hv
    cases hv
  · intro hdecided
    exact ⟨_, run_outcome_eq_ok hdata hcompiled hdecided⟩

theorem fieldStops_iff {e : Value × Value} {r : Rule} {pattern : Option Pattern}
    (hr : (Rule.normalize e.2).outcome = .ok r)
    (hpattern : r.compiledPattern e.1 = .ok pattern) :
    FieldStops record e ↔ r.Stops pattern (record.find e.1) := by
  constructor
  · rintro ⟨r', pattern', hr', hpattern', hstops⟩
    obtain rfl := Except.ok.inj (hr.symm.trans hr')
    obtain rfl := Except.ok.inj (hpattern.symm.trans hpattern')
    exact hstops
  · intro hstops
    exact ⟨r, pattern, hr, hpattern, hstops⟩

/-- The checks of a field reach a verdict unless those of its rule stop. -/
theorem Prepared.isDecided_of_make {p : Prepared} {e : Value × Value}
    (hmake : (Prepared.make e.1 e.2).outcome = .ok p) :
    p.IsDecided record ↔ ¬ FieldStops record e := by
  obtain ⟨hfield, hr, hpattern⟩ := Prepared.make_eq_ok.mp hmake
  rw [Prepared.isDecided_iff (Prepared.compiled_of_make hmake), fieldStops_iff hr hpattern,
    Prepared.value, hfield]

theorem forall_isDecided_iff (hprepared : (Prepared.all entries).outcome = .ok prepared) :
    (∀ p ∈ prepared, p.IsDecided record) ↔ ∀ e ∈ entries, ¬ FieldStops record e := by
  constructor
  · intro hdecided e he
    obtain ⟨p, hp, hmake⟩ := Prepared.exists_of_mem_entries hprepared he
    exact (Prepared.isDecided_of_make hmake).mp (hdecided p hp)
  · intro hstops p hp
    obtain ⟨e, he, hmake⟩ := Prepared.exists_of_mem_all hprepared hp
    exact (Prepared.isDecided_of_make hmake).mpr (hstops e he)

/-- **A validation ends with a result** unless a rule or a value is past the limits. -/
theorem validate_eq_ok (hdata : data.record = .ok record) (hrules : rules.entries = .ok entries)
    (hpatterns : ∀ e ∈ entries, PatternCompiles e) :
    (∃ v, (validate validators data rules).outcome = .ok v) ↔
      ∀ e ∈ entries, ¬ Rule.Exceeds e.2 ∧ ¬ FieldStops record e := by
  -- all rules are prepared before any field runs, so the two ways to fail come one after the other
  have hmake : (∃ prepared, (Prepared.all entries).outcome = .ok prepared) ↔
      ∀ e ∈ entries, ¬ Rule.Exceeds e.2 := by
    rw [Prepared.exists_all]
    exact forall₂_congr fun e he => Prepared.exists_make (hpatterns e he)
  constructor
  · rintro ⟨v, hv⟩
    rw [validate, Traced.outcome_bind_eq_ok] at hv
    obtain ⟨entries', hentries, hv⟩ := hv
    obtain rfl : entries = entries' := Except.ok.inj (hrules.symm.trans hentries)
    obtain ⟨prepared, hprepared, hrun⟩ := Traced.outcome_bind_eq_ok.mp hv
    have hcompiled : ∀ p ∈ prepared, p.rule.Compiled p.pattern :=
      fun p hp => Prepared.compiled_of_mem_all hprepared hp
    have hdecided := (Validation.exists_run hdata hcompiled).mp ⟨v, hrun⟩
    intro e he
    exact ⟨hmake.mp ⟨prepared, hprepared⟩ e he, (forall_isDecided_iff hprepared).mp hdecided e he⟩
  · intro h
    obtain ⟨prepared, hprepared⟩ := hmake.mpr fun e he => (h e he).1
    have hcompiled : ∀ p ∈ prepared, p.rule.Compiled p.pattern :=
      fun p hp => Prepared.compiled_of_mem_all hprepared hp
    have hdecided := (forall_isDecided_iff hprepared).mpr fun e he => (h e he).2
    rw [Validation.validate_outcome hrules hprepared]
    exact (Validation.exists_run hdata hcompiled).mpr hdecided

/-! ## A rule that asks for a number -/

/-- The one rule of a record. -/
def numberEntry : Value × Value := (.text "n", .text "number")

theorem patternCompiles_number : ∀ e ∈ [numberEntry], PatternCompiles e := by
  intro e he r hr
  rw [List.mem_singleton.mp he] at hr
  obtain rfl := Except.ok.inj hr
  exact ⟨none, by rw [List.mem_singleton.mp he]; rfl⟩

/-- The checks stop on a text exactly when it is too large to be read. -/
theorem fieldStops_number {s : String} (hs : (Value.text s).isEmpty = false) :
    FieldStops [(.text "n", .text s)] numberEntry ↔ Number.TooLarge s.toList := by
  have hrule := @fieldStops_iff [(.text "n", .text s)] numberEntry _ _ rfl rfl
  have hstops : FieldStops [(.text "n", .text s)] numberEntry ↔
      (Value.text s).isWritable = false ∨
        (Value.text s).isEmpty = false ∧ Constraint.StopsAmong s [.number] := hrule
  have hwritable : ¬ (Value.text s).isWritable = false := by
    rw [Value.isWritable]
    decide
  rw [hstops, Constraint.stopsAmong_cons, or_iff_right hwritable, and_iff_right hs]
  exact or_iff_left fun h => Constraint.not_stopsAmong_nil h.2

/-- **Rules and validations past the limits, and only these, end without a result.** Values are
taken to be nested no deeper than they can be written: texts go through any depth here. -/
theorem returns_iff (raw : Value) (validators : Validators) {data rules : Value} {record : Dict}
    {entries : Rules} (hdata : data.record = .ok record) (hrules : rules.entries = .ok entries)
    (hpatterns : ∀ e ∈ entries, PatternCompiles e) :
    ((∃ r, (Rule.normalize raw).outcome = .ok r) ↔ ¬ Rule.Exceeds raw) ∧
    ((∃ v, (validate validators data rules).outcome = .ok v) ↔
      ∀ e ∈ entries, ¬ Rule.Exceeds e.2 ∧ ¬ FieldStops record e) :=
  ⟨Rule.normalize_eq_ok, validate_eq_ok hdata hrules hpatterns⟩

/-- A number of ordinary size passes a rule that asks for one. -/
theorem returns_iff_number :
    ∃ v, (validate (fun _ => ⟨0, fun _ _ => .raised⟩) (.dict [(.text "n", .text "12")])
      (.dict [(.text "n", .text "number")])).outcome = .ok v := by
  have hdata : (Value.dict [(.text "n", .text "12")]).record =
      .ok [(.text "n", .text "12")] := rfl
  have hrules : (Value.dict [(.text "n", .text "number")]).entries = .ok [numberEntry] := rfl
  obtain ⟨hrule, hresult⟩ := returns_iff (.text "number") (fun _ => ⟨0, fun _ _ => .raised⟩)
    hdata hrules patternCompiles_number
  refine hresult.mpr fun e he => ?_
  rw [List.mem_singleton.mp he]
  refine ⟨hrule.mp ⟨_, rfl⟩, ?_⟩
  rw [fieldStops_number rfl]
  exact Number.parse?_eq_ok.mp ⟨_, rfl⟩

/-- A prefixed integer of 256 digits, larger than every double. -/
def largeChars : List Char := '0' :: 'x' :: List.replicate 256 'f'

theorem tooLarge_largeChars : Number.TooLarge largeChars := by
  have hdigits (n : Nat) : ∀ d ∈ List.replicate n 'f', Number.isDigitIn 16 d = true := by
    intro d hd
    rw [List.eq_of_mem_replicate hd]
    rfl
  refine ⟨'x', 16, List.replicate 256 'f', ?_, rfl, ?_, hdigits 256, ?_⟩
  · decide +kernel
  · decide +kernel
  · decide +kernel

def largeLiteral : String := String.ofList largeChars

theorem toList_largeLiteral : largeLiteral.toList = largeChars := String.toList_ofList

theorem isEmpty_largeLiteral : (Value.text largeLiteral).isEmpty = false := by
  rw [Value.isEmpty_text, Text.isBlankString, toList_largeLiteral]
  decide +kernel

/-- There is no result for the literal as a limit, and none for it as a value. -/
theorem no_result_largeLiteral :
    (¬ ∃ r, (Rule.normalize (.dict [(.text "minValue", .text largeLiteral)])).outcome = .ok r) ∧
    ¬ ∃ v, (validate (fun _ => ⟨0, fun _ _ => .raised⟩)
      (.dict [(.text "n", .text largeLiteral)])
      (.dict [(.text "n", .text "number")])).outcome = .ok v := by
  constructor
  · rw [Rule.normalize_eq_ok, Classical.not_not]
    refine .inr (.inr (.inr (.inl ⟨.text largeLiteral, rfl, .inr ?_⟩)))
    show Number.TooLarge largeLiteral.toList
    rw [toList_largeLiteral]
    exact tooLarge_largeChars
  · rw [validate_eq_ok rfl rfl patternCompiles_number]
    intro h
    refine (h _ (List.mem_singleton_self _)).2 ?_
    rw [fieldStops_number isEmpty_largeLiteral, toList_largeLiteral]
    exact tooLarge_largeChars

end FieldRules
