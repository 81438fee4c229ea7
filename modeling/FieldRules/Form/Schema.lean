import FieldRules.Fault
import FieldRules.Named

/-!
# Form — Schema

The fields of a form in order, each with its rule. A field that is defined
again keeps its first place.
-/

namespace FieldRules

/-- Rules by field name, in the order in which the names were first added. -/
structure Schema where
  fields : Named Rule

namespace Schema

def empty : Schema := ⟨[]⟩

/-- Adds a field or defines it again. -/
def add (s : Schema) (name : String) (r : Rule) : Schema :=
  ⟨Named.put name r s.fields⟩

/-- The rule of a field. -/
def find? (s : Schema) (name : String) : Option Rule :=
  s.fields.lookup name

/-- The rule of a field that has to be there. -/
def get (s : Schema) (name : String) : Except Fault Rule :=
  match s.find? name with
  | some r => .ok r
  | none => .error (.missing name)

/-- The names in order. -/
def order (s : Schema) : List String :=
  Named.names s.fields

def size (s : Schema) : Nat :=
  s.fields.length

def has (s : Schema) (name : String) : Bool :=
  (s.find? name).isSome

/-- The names of the schema, as it is shown. -/
def text (s : Schema) : String :=
  "FormSchema(" ++ (Value.list (s.order.map .text)).literal ++ ")"

end Schema
end FieldRules
