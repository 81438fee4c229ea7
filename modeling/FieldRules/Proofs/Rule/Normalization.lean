import FieldRules.Proofs.Number.Excess
import FieldRules.Rule.Normalize

/-!
# Proofs — Normalization

When a value has a rule. Whatever does not fit is dropped, so normalizing ends without a rule in
one case only: a bound, or a declared type, that is too long or too large to be read or written
(`normalize_eq_ok`). `Exceeds` says for every kind of value when that is.
-/

namespace FieldRules

open Number (TooLarge TooLong)

theorem exists_liftExcess {α β : Type} {x : Except Number.Excess α} (f : α → β) :
    (∃ b, (liftExcess x >>= fun a => Except.ok (f a)) = .ok b) ↔ ∃ a, x = .ok a := by
  cases x with
  | error e =>
      refine iff_of_false ?_ ?_ <;> rintro ⟨b, h⟩ <;> cases h
  | ok a => exact iff_of_true ⟨_, rfl⟩ ⟨a, rfl⟩

namespace Rule

/-! ## Tokens -/

/-- The names of tokens whose argument is a length. -/
def lengthNames : List String := ["min", "max"]

/-- The names of tokens whose argument is a limit. -/
def limitNames : List String := ["minValue", "min_value", "maxValue", "max_value"]

/-- The argument of a token is too long or too large for the bound that the token names. -/
def Token.Exceeds (cs : List Char) : Prop :=
  String.ofList (splitToken cs).1 ∈ lengthNames ∧ TooLong (splitToken cs).2 ∨
    String.ofList (splitToken cs).1 ∈ limitNames ∧ TooLarge (splitToken cs).2

theorem Token.read_eq_ok {cs : List Char} : (∃ t, Token.read cs = .ok t) ↔ ¬ Exceeds cs := by
  rcases hsplit : splitToken cs with ⟨chars, argument⟩
  simp only [Token.read, Exceeds, hsplit]
  generalize String.ofList chars = name
  have hlength (f : Option Int → Token) :
      (∃ t, (liftExcess (Number.leadingInteger? argument) >>= fun n => Except.ok (f n)) = .ok t) ↔
        ¬ TooLong argument :=
    (exists_liftExcess f).trans Number.leadingInteger?_eq_ok
  have hlimit (f : Option Number.Numeric → Token) :
      (∃ t, (liftExcess (Number.parseNumeric? argument) >>= fun n => Except.ok (f n)) = .ok t) ↔
        ¬ TooLarge argument :=
    (exists_liftExcess f).trans Number.parseNumeric?_eq_ok
  split
  case h_8 => exact (hlength .min).trans (by simp [lengthNames, limitNames])
  case h_9 => exact (hlength .max).trans (by simp [lengthNames, limitNames])
  case h_10 => exact (hlimit .minValue).trans (by simp [lengthNames, limitNames])
  case h_11 => exact (hlimit .minValue).trans (by simp [lengthNames, limitNames])
  case h_12 => exact (hlimit .maxValue).trans (by simp [lengthNames, limitNames])
  case h_13 => exact (hlimit .maxValue).trans (by simp [lengthNames, limitNames])
  case h_15 => exact iff_of_true ⟨_, rfl⟩ (by simp_all [lengthNames, limitNames])
  all_goals exact iff_of_true ⟨_, rfl⟩ (by simp [lengthNames, limitNames])

/-- **A text has a rule** unless one of its tokens has none. -/
theorem applyTokens_eq_ok {tokens : List (List Char)} {r : Rule} :
    (∃ r', (applyTokens tokens r).outcome = .ok r') ↔ ∀ cs ∈ tokens, ¬ Token.Exceeds cs := by
  induction tokens generalizing r with
  | nil => exact iff_of_true ⟨r, rfl⟩ (by simp)
  | cons cs rest ih =>
      simp only [List.forall_mem_cons, outcome_applyTokens_cons, bind_eq_ok]
      rw [← Token.read_eq_ok]
      constructor
      · rintro ⟨r', token, htoken, h⟩
        exact ⟨⟨token, htoken⟩, ih.mp ⟨r', h⟩⟩
      · rintro ⟨⟨token, htoken⟩, hrest⟩
        obtain ⟨r', hr'⟩ := ih.mpr hrest
        exact ⟨r', token, htoken, hr'⟩

theorem ofText_eq_ok {s : String} :
    (∃ r, (ofText s).outcome = .ok r) ↔ ∀ cs ∈ splitTokens s.toList, ¬ Token.Exceeds cs := by
  rw [← applyTokens_eq_ok, ofText]
  simp only [Traced.outcome_bind_eq_ok, Traced.outcome_pure, Except.ok.injEq]
  constructor
  · rintro ⟨r, r', h, -⟩
    exact ⟨r', h⟩
  · rintro ⟨r', h⟩
    exact ⟨_, r', h, rfl⟩

/-! ## Mappings -/

end Rule

/-- The value has no bound: it is no number, and its text cannot be written or read. -/
def Value.BoundExceeds (exceeds : List Char → Prop) : Value → Prop
  | .null => False
  | .bool _ => False
  | .int _ => False
  | .float _ => False
  | v => v.isWritable = false ∨ exceeds v.display.toList

theorem Value.display?_of_isWritable {v : Value} (h : v.isWritable = true) :
    v.display? = .ok v.display := by
  simp [display?, ifWritable, h]

theorem Value.display?_of_not_isWritable {v : Value} (h : v.isWritable = false) :
    v.display? = .error .writing := by
  simp [display?, ifWritable, h]

/-- A bound that is read off the text of a value. -/
theorem Value.exists_bound {α : Type} {exceeds : List Char → Prop} {v : Value}
    {read : List Char → Except Number.Excess α}
    (hread : ∀ {cs}, (∃ a, read cs = .ok a) ↔ ¬ exceeds cs) :
    (∃ a, liftExcess (v.display? >>= fun s => read s.toList) = .ok a) ↔
      ¬ (v.isWritable = false ∨ exceeds v.display.toList) := by
  by_cases hw : v.isWritable = true
  · have hrun : liftExcess (v.display? >>= fun s => read s.toList) =
        liftExcess (read v.display.toList) := by
      rw [display?_of_isWritable hw]
      rfl
    rw [hrun, not_or, ← hread]
    cases read v.display.toList with
    | error e => simp [liftExcess]
    | ok a => simp [liftExcess, hw]
  · have hw' : v.isWritable = false := Bool.eq_false_iff.mpr hw
    rw [display?_of_not_isWritable hw']
    refine iff_of_false ?_ fun h => h (.inl hw')
    rintro ⟨a, h⟩
    cases h

theorem Value.length?_eq_ok {v : Value} :
    (∃ n?, v.length? = .ok n?) ↔ ¬ v.BoundExceeds TooLong := by
  cases v with
  | null => exact iff_of_true ⟨_, rfl⟩ id
  | bool b => exact iff_of_true ⟨_, rfl⟩ id
  | int n => exact iff_of_true ⟨_, rfl⟩ id
  | float x => exact iff_of_true ⟨_, rfl⟩ id
  | _ =>
      simp only [length?, BoundExceeds]
      exact exists_bound Number.leadingInteger?_eq_ok

theorem Value.limit?_eq_ok {v : Value} :
    (∃ x?, v.limit? = .ok x?) ↔ ¬ v.BoundExceeds TooLarge := by
  cases v with
  | null => exact iff_of_true ⟨_, rfl⟩ id
  | bool b => exact iff_of_true ⟨_, rfl⟩ id
  | int n => exact iff_of_true ⟨_, rfl⟩ id
  | float x => exact iff_of_true ⟨_, rfl⟩ id
  | _ =>
      simp only [limit?, BoundExceeds]
      exact exists_bound Number.parseNumeric?_eq_ok

namespace Rule

/-- A mapping gives a bound that is none. -/
def GivesExcess (exceeds : List Char → Prop) (d : Dict) (a : Attribute) : Prop :=
  ∃ v, d.firstGiven? a.spellings = some v ∧ v.BoundExceeds exceeds

/-- A mapping declares a type that cannot be written, or gives a bound that is none. -/
def DictExceeds (d : Dict) : Prop :=
  (∃ v, d.given? "type" = some v ∧ v.isWritable = false) ∨
    GivesExcess TooLong d .min ∨ GivesExcess TooLong d .max ∨
    GivesExcess TooLarge d .minValue ∨ GivesExcess TooLarge d .maxValue

theorem declaredType_eq_ok {d : Dict} :
    (∃ type, declaredType d = .ok type) ↔
      ¬ ∃ v, d.given? "type" = some v ∧ v.isWritable = false := by
  unfold declaredType
  cases d.given? "type" with
  | none => exact iff_of_true ⟨_, rfl⟩ (by simp)
  | some v =>
      dsimp only
      by_cases hw : v.isWritable = true
      · rw [Value.display?_of_isWritable hw]
        exact iff_of_true ⟨_, rfl⟩ (by simp [hw])
      · have hw' : v.isWritable = false := Bool.eq_false_iff.mpr hw
        rw [Value.display?_of_not_isWritable hw']
        refine iff_of_false ?_ (by simp [hw'])
        rintro ⟨type, h⟩
        cases h

theorem optionalBound_eq_ok {α : Type} {read : Value → Except Fault (Option α)}
    {exceeds : List Char → Prop} (hread : ∀ {v}, (∃ b, read v = .ok b) ↔ ¬ v.BoundExceeds exceeds)
    (d : Dict) (a : Attribute) :
    (∃ b, Value.optionalBound read (d.firstGiven? a.spellings) = .ok b) ↔
      ¬ GivesExcess exceeds d a := by
  unfold GivesExcess Value.optionalBound
  cases d.firstGiven? a.spellings with
  | none => exact iff_of_true ⟨_, rfl⟩ (by simp)
  | some v => simpa using hread

/-- **A mapping has a rule** unless its type or one of its bounds is past the limits. -/
theorem ofDict_eq_ok {d : Dict} : (∃ r, ofDict d = .ok r) ↔ ¬ DictExceeds d := by
  have hmin := optionalBound_eq_ok Value.length?_eq_ok d .min
  have hmax := optionalBound_eq_ok Value.length?_eq_ok d .max
  have hminValue := optionalBound_eq_ok Value.limit?_eq_ok d .minValue
  have hmaxValue := optionalBound_eq_ok Value.limit?_eq_ok d .maxValue
  simp only [DictExceeds, not_or, ← declaredType_eq_ok, ← hmin, ← hmax, ← hminValue, ← hmaxValue,
    ofDict, bind_eq_ok]
  constructor
  · rintro ⟨r, type, htype, min, hmin, max, hmax, minValue, hminValue, maxValue, hmaxValue, -⟩
    exact ⟨⟨type, htype⟩, ⟨min, hmin⟩, ⟨max, hmax⟩, ⟨minValue, hminValue⟩, maxValue, hmaxValue⟩
  · rintro ⟨⟨type, htype⟩, ⟨min, hmin⟩, ⟨max, hmax⟩, ⟨minValue, hminValue⟩, maxValue, hmaxValue⟩
    exact ⟨_, type, htype, min, hmin, max, hmax, minValue, hminValue, maxValue, hmaxValue, rfl⟩

/-! ## Whole values -/

/-- The value has no rule: something in it is too long or too large. -/
def Exceeds : Value → Prop
  | .text s => ∃ cs ∈ splitTokens s.toList, Token.Exceeds cs
  | .dict d => DictExceeds d
  | _ => False

theorem not_exceeds_of_not_truthy {raw : Value} (h : raw.truthy = false) : ¬ Exceeds raw := by
  cases raw with
  | text s =>
      have hs : s = "" := by simpa [Value.truthy] using h
      rw [hs]
      rintro ⟨cs, hcs, -⟩
      cases hcs
  | dict d =>
      have hd : d = [] := by simpa [Value.truthy] using h
      rw [hd]
      simp [Exceeds, DictExceeds, GivesExcess, Dict.given?, Dict.firstGiven?_nil]
  | _ => exact fun h => h

/-- **Every value has a rule** except for bounds and types past the limits. -/
theorem normalize_eq_ok {raw : Value} :
    (∃ r, (normalize raw).outcome = .ok r) ↔ ¬ Exceeds raw := by
  unfold normalize
  by_cases ht : raw.truthy = true
  · rw [if_pos ht]
    cases raw with
    | text s =>
        rw [ofText_eq_ok]
        simp [Exceeds]
    | dict d => exact ofDict_eq_ok
    | _ => exact iff_of_true ⟨_, rfl⟩ fun h => h
  · rw [if_neg ht]
    exact iff_of_true ⟨_, rfl⟩ (not_exceeds_of_not_truthy (Bool.eq_false_iff.mpr ht))

end Rule
end FieldRules
