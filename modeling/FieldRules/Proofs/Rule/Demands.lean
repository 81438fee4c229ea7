import FieldRules.Proofs.Number.Numeral
import FieldRules.Proofs.Value.Mapping
import FieldRules.Rule.Normalize

/-!
# Proofs — Demands

What both forms of a rule can ask of a field, and the rule that asks for it. `States` says that a
rule asks for exactly the demands of a list, without regard to their order; two such rules are equal
(`States.same`). Laying the token of a demand on a rule adds the demand, provided nothing was
asked yet about the same attribute (`States.apply`).
-/

namespace FieldRules.Rule

open Number (Double Numeric)

/-! ## Demands -/

/-- The types that a token declares. -/
inductive Demand.Kind where
  | text | email | password | number | url
deriving DecidableEq

/-- The name of a type in a mapping. -/
def Demand.Kind.name : Kind → String
  | .text => "text"
  | .email => "email"
  | .password => "password"
  | .number => "number"
  | .url => "url"

/-- A text that a token can carry as it is. -/
structure IsArgument (s : String) : Prop where
  not_empty : s ≠ ""
  trimmed : Text.trim s.toList = s.toList
  not_separator : ∀ c ∈ s.toList, isSeparator c = false

/-- Something that a rule asks of a field. -/
inductive Demand where
  | required
  | type (kind : Demand.Kind)
  | min (bound : Int)
  | max (bound : Int)
  | minValue (bound : Double) (finite : bound.isFinite = true)
  | maxValue (bound : Double) (finite : bound.isFinite = true)
  | pattern (source : String) (whole : IsArgument source)
deriving DecidableEq

namespace Demand

/-- The attribute that a demand is about. -/
def subject : Demand → Attribute
  | .required => .required
  | .type _ => .type
  | .min _ => .min
  | .max _ => .max
  | .minValue _ _ => .minValue
  | .maxValue _ _ => .maxValue
  | .pattern _ _ => .pattern

/-- The attributes that demands are about. -/
def subjects : List Attribute :=
  [.required, .type, .min, .max, .minValue, .maxValue, .pattern]

theorem subject_mem (d : Demand) : d.subject ∈ subjects := by
  cases d <;> simp [subject, subjects]

/-- What a mapping holds for a demand. -/
def value : Demand → Value
  | .required => .bool true
  | .type kind => .text kind.name
  | .min bound => .int bound
  | .max bound => .int bound
  | .minValue bound _ => .float bound
  | .maxValue bound _ => .float bound
  | .pattern source _ => .text source

/-- What the token of a demand asks for. -/
def token : Demand → Token
  | .required => .required
  | .type .text => .plainText
  | .type .email => .email
  | .type .password => .password
  | .type .number => .number
  | .type .url => .url
  | .min bound => .min (some bound)
  | .max bound => .max (some bound)
  | .minValue bound _ => .minValue bound.toNumeric?
  | .maxValue bound _ => .maxValue bound.toNumeric?
  | .pattern source _ => .pattern source

end Demand

/-! ## Rules that state demands -/

/-- The rule without all that a demand can be about. -/
def beyondDemands (r : Rule) : Rule :=
  { r with
    required := false, type := none, email := false, url := false, number := false, min := none,
    max := none, minValue := none, maxValue := none, pattern := none, provided := [] }

/-- The rule asks for the demands of the list and for nothing else. -/
structure States (r : Rule) (asked : List Demand) : Prop where
  required : r.required = true ↔ .required ∈ asked
  type : ∀ t, r.type = some t ↔ ∃ kind, .type kind ∈ asked ∧ kind.name = t
  email : r.email = true ↔ .type .email ∈ asked
  url : r.url = true ↔ .type .url ∈ asked
  number : r.number = true ↔ .type .number ∈ asked
  min : ∀ n, r.min = some n ↔ .min n ∈ asked
  max : ∀ n, r.max = some n ↔ .max n ∈ asked
  minValue : ∀ x, r.minValue = some x ↔
    ∃ bound finite, .minValue bound finite ∈ asked ∧ bound.toNumeric? = some x
  maxValue : ∀ x, r.maxValue = some x ↔
    ∃ bound finite, .maxValue bound finite ∈ asked ∧ bound.toNumeric? = some x
  pattern : ∀ p, r.pattern = some p ↔ ∃ source whole, .pattern source whole ∈ asked ∧
    PatternSpec.source source = p
  beyondDemands : r.beyondDemands = Rule.empty

variable {r q : Rule} {asked done : List Demand} {d : Demand}

theorem states_empty : States Rule.empty [] := by
  constructor <;> simp [Rule.empty, beyondDemands]

theorem States.congr (h : States r asked) (hmem : ∀ d, d ∈ asked ↔ d ∈ done) : States r done := by
  constructor
  case beyondDemands => exact h.beyondDemands
  all_goals simp only [← hmem]
  exacts [h.required, h.type, h.email, h.url, h.number, h.min, h.max, h.minValue, h.maxValue,
    h.pattern]

/-- What was provided does not matter. -/
theorem States.withProvided (h : States r asked) (provided : List Attribute) :
    States { r with provided } asked :=
  { h with }

/-! ## Equality -/

theorem equal_self_of_toNumeric? {bound : Double} {x : Numeric} (h : bound.toNumeric? = some x) :
    x.equal x = true := by
  have hplace : ∃ p, x.place? = some p := by
    cases bound with
    | finite negative units fits =>
        simp only [Double.toNumeric?, Double.truncate?, Option.some.injEq] at h
        subst h
        split
        · exact ⟨_, rfl⟩
        · cases negative <;> exact ⟨_, rfl⟩
    | _ => cases h
  obtain ⟨p, hp⟩ := hplace
  simp [Numeric.equal, hp]

theorem sameOption_self {α : Type} {p : α → α → Bool} {a : Option α}
    (h : ∀ x, a = some x → p x x = true) : sameOption p a a = true := by
  cases a with
  | none => rfl
  | some x => exact h x rfl

theorem eq_of_beyondDemands (h : r.beyondDemands = Rule.empty) : r = { Rule.empty with
    required := r.required, type := r.type, email := r.email, url := r.url, number := r.number,
    min := r.min, max := r.max, minValue := r.minValue, maxValue := r.maxValue,
    pattern := r.pattern, provided := r.provided } := by
  calc r = { r.beyondDemands with
        required := r.required, type := r.type, email := r.email, url := r.url, number := r.number,
        min := r.min, max := r.max, minValue := r.minValue, maxValue := r.maxValue,
        pattern := r.pattern, provided := r.provided } := by cases r; rfl
    _ = _ := by rw [h]

/-- **Rules that state the same demands are equal.** -/
theorem States.same (hr : States r asked) (hq : States q asked) : r.same q = true := by
  have hrequired : r.required = q.required :=
    Bool.eq_iff_iff.mpr (hr.required.trans hq.required.symm)
  have hemail : r.email = q.email := Bool.eq_iff_iff.mpr (hr.email.trans hq.email.symm)
  have hurl : r.url = q.url := Bool.eq_iff_iff.mpr (hr.url.trans hq.url.symm)
  have hnumber : r.number = q.number := Bool.eq_iff_iff.mpr (hr.number.trans hq.number.symm)
  have htype : r.type = q.type := Option.ext fun t => (hr.type t).trans (hq.type t).symm
  have hmin : r.min = q.min := Option.ext fun n => (hr.min n).trans (hq.min n).symm
  have hmax : r.max = q.max := Option.ext fun n => (hr.max n).trans (hq.max n).symm
  have hminValue : r.minValue = q.minValue :=
    Option.ext fun x => (hr.minValue x).trans (hq.minValue x).symm
  have hmaxValue : r.maxValue = q.maxValue :=
    Option.ext fun x => (hr.maxValue x).trans (hq.maxValue x).symm
  have hpattern : r.pattern = q.pattern :=
    Option.ext fun p => (hr.pattern p).trans (hq.pattern p).symm
  have hlow : sameOption Numeric.equal q.minValue q.minValue = true := by
    refine sameOption_self fun x hx => ?_
    obtain ⟨bound, finite, -, hbound⟩ := (hq.minValue x).mp hx
    exact equal_self_of_toNumeric? hbound
  have hhigh : sameOption Numeric.equal q.maxValue q.maxValue = true := by
    refine sameOption_self fun x hx => ?_
    obtain ⟨bound, finite, -, hbound⟩ := (hq.maxValue x).mp hx
    exact equal_self_of_toNumeric? hbound
  have hsource : sameOption PatternSpec.same q.pattern q.pattern = true := by
    refine sameOption_self fun p hp => ?_
    obtain ⟨source, whole, -, rfl⟩ := (hq.pattern p).mp hp
    simp [PatternSpec.same]
  rw [eq_of_beyondDemands hr.beyondDemands, eq_of_beyondDemands hq.beyondDemands]
  simp [Rule.empty, Rule.same, Value.sameOptional, Value.sameEntries, Presentation.sameOptional,
    hrequired, hemail, hurl, hnumber, htype, hmin, hmax, hminValue, hmaxValue, hpattern, hlow,
    hhigh, hsource]

/-! ## Tokens of demands -/

theorem beyondDemands_apply (r : Rule) (t : Token) :
    (r.apply t).beyondDemands = r.beyondDemands := by
  cases t with
  | pattern source =>
      by_cases hsource : source.isEmpty = true <;> simp [apply, hsource, beyondDemands]
  | _ => rfl

/-- **The token of a demand adds it** to a rule that asks nothing yet about its subject. -/
theorem States.apply (h : States r done) (hnew : d.subject ∉ done.map Demand.subject) :
    States (r.apply d.token) (done ++ [d]) := by
  have hfresh (e : Demand) (he : e.subject = d.subject) : e ∉ done := fun hmem =>
    hnew (he ▸ List.mem_map_of_mem hmem)
  have hbeyond := (beyondDemands_apply r d.token).trans h.beyondDemands
  obtain ⟨hrequired, htype, hemail, hurl, hnumber, hmin, hmax, hminValue, hmaxValue, hpattern, -⟩ :=
    h
  cases d with
  | required =>
      constructor
      case beyondDemands => exact hbeyond
      all_goals simp [Demand.token, Rule.apply, *]
  | type kind =>
      have hnone (k : Demand.Kind) : .type k ∉ done := hfresh _ rfl
      have huntyped : r.type = none := by
        simpa [hnone, Option.eq_none_iff_forall_ne_some] using htype
      cases kind
      all_goals
        constructor
        case beyondDemands => exact hbeyond
        all_goals simp [Demand.token, Demand.Kind.name, Rule.apply, *]
  | min bound =>
      have hnone (n : Int) : .min n ∉ done := hfresh _ rfl
      constructor
      case beyondDemands => exact hbeyond
      all_goals simp [Demand.token, Rule.apply, eq_comm (a := bound), *]
  | max bound =>
      have hnone (n : Int) : .max n ∉ done := hfresh _ rfl
      constructor
      case beyondDemands => exact hbeyond
      all_goals simp [Demand.token, Rule.apply, eq_comm (a := bound), *]
  | minValue bound finite =>
      have hnone (x : Double) (hx) : .minValue x hx ∉ done := hfresh _ rfl
      constructor
      case beyondDemands => exact hbeyond
      all_goals simp [Demand.token, Rule.apply, *]
  | maxValue bound finite =>
      have hnone (x : Double) (hx) : .maxValue x hx ∉ done := hfresh _ rfl
      constructor
      case beyondDemands => exact hbeyond
      all_goals simp [Demand.token, Rule.apply, *]
  | pattern source whole =>
      have hnone (s : String) (hs) : .pattern s hs ∉ done := hfresh _ rfl
      have hne : source.isEmpty = false := by simpa using whole.not_empty
      constructor
      case beyondDemands => exact hbeyond
      all_goals simp [Demand.token, Rule.apply, *]

end FieldRules.Rule
