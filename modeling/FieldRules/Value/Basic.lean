import FieldRules.Pattern.Compiled
import FieldRules.Rule.Attribute

/-!
# Value — Basic

The values that rules, records and options are made of: the values of a
document, and besides them compiled patterns, custom functions, and rules and
presentations that were built beforehand. A rule holds values in turn, so the
three types are defined together.
-/

namespace FieldRules

/-- A custom function, known by its number alone. -/
structure Handle where
  number : Nat
deriving DecidableEq, Repr

/-- The pattern of a rule: a source still to be compiled, or a compiled pattern. -/
inductive PatternSpec where
  | source (text : String)
  | compiled (p : Pattern)

mutual

inductive Value where
  | null
  | bool (b : Bool)
  | int (n : Int)
  | float (x : Number.Double)
  | text (s : String)
  | list (items : List Value)
  | tuple (items : List Value)
  /-- A mapping in insertion order, with pairwise different keys. -/
  | dict (entries : List (Value × Value))
  | pattern (p : Pattern)
  | function (f : Handle)
  | rule (r : Rule)
  | presentation (p : Presentation)

/-- What a field must satisfy and how it is shown. An attribute that is not given is `none`, and a
`null` is not kept; `extras` holds what no attribute stands for, and `provided` the attributes
that the source of the rule gave, when it is known. -/
structure Rule where
  required : Bool
  type : Option String
  email : Bool
  url : Bool
  number : Bool
  min : Option Int
  max : Option Int
  minValue : Option Number.Numeric
  maxValue : Option Number.Numeric
  pattern : Option PatternSpec
  validate : Option Handle
  label : Option Value
  hint : Option Value
  placeholder : Option Value
  id : Option Value
  className : Option Value
  attrs : List (Value × Value)
  ui : Option Presentation
  extras : List (Value × Value)
  provided : List Attribute

/-- How a field is shown, where that differs from what its rule implies. -/
structure Presentation where
  variant : Option Value
  control : Option Value
  label : Option Value
  hint : Option Value
  wrapperClass : Option Value
  labelClass : Option Value
  inputClass : Option Value
  errorClass : Option Value
  render : Option Handle
  attrs : List (Value × Value)
  extras : List (Value × Value)

end

/-- A mapping in insertion order, with pairwise different keys. -/
abbrev Dict := List (Value × Value)

/-- The rule that asks for nothing. -/
def Rule.empty : Rule where
  required := false
  type := none
  email := false
  url := false
  number := false
  min := none
  max := none
  minValue := none
  maxValue := none
  pattern := none
  validate := none
  label := none
  hint := none
  placeholder := none
  id := none
  className := none
  attrs := []
  ui := none
  extras := []
  provided := []

/-- The presentation that changes nothing. -/
def Presentation.empty : Presentation where
  variant := none
  control := none
  label := none
  hint := none
  wrapperClass := none
  labelClass := none
  inputClass := none
  errorClass := none
  render := none
  attrs := []
  extras := []

instance : Inhabited Value := ⟨.null⟩
instance : Inhabited Rule := ⟨.empty⟩
instance : Inhabited Presentation := ⟨.empty⟩

namespace Value

def isNull : Value → Bool
  | .null => true
  | _ => false

/-- The value unless it is `null`. -/
def present? : Value → Option Value
  | .null => none
  | v => some v

/-- A value that may be absent, absence being `null`. -/
def ofOption : Option Value → Value
  | some v => v
  | none => .null

/-- Whether a value counts as given: `null`, false, zero and what is empty do not. -/
def truthy : Value → Bool
  | .null => false
  | .bool b => b
  | .int n => n != 0
  | .float x => !x.isZero
  | .text s => !s.isEmpty
  | .list items => !items.isEmpty
  | .tuple items => !items.isEmpty
  | .dict entries => !entries.isEmpty
  | .pattern _ => true
  | .function _ => true
  | .rule _ => true
  | .presentation _ => true

/-- The number that a value is, truth values counting as one and zero. -/
def numeric? : Value → Option Number.Numeric
  | .bool b => some (.int (if b then 1 else 0))
  | .int n => some (.int n)
  | .float x => some (.double x)
  | _ => none

/-- A number as a value. -/
def ofNumeric : Number.Numeric → Value
  | .int n => .int n
  | .double x => .float x

/-- The name of a value's type, as messages give it. -/
def typeName : Value → String
  | .null => "NoneType"
  | .bool _ => "bool"
  | .int _ => "int"
  | .float _ => "float"
  | .text _ => "str"
  | .list _ => "list"
  | .tuple _ => "tuple"
  | .dict _ => "dict"
  | .pattern _ => "Pattern"
  | .function _ => "function"
  | .rule _ => "RuleDescriptor"
  | .presentation _ => "UIOptions"

@[simp] theorem present?_null : present? .null = none := rfl

end Value

end FieldRules
