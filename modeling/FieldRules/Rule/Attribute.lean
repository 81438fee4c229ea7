/-!
# Rule — Attribute

The attributes of a rule, and sets of them. A set is kept as a list in the
order of `Attribute.all` without repetitions, so that equal sets are equal
lists.
-/

namespace FieldRules

/-- What a rule can say about a field. -/
inductive Attribute where
  | required | type | email | url | number
  | min | max | minValue | maxValue
  | pattern | validate
  | label | hint | placeholder | id | className
  | attrs | ui
deriving DecidableEq, Repr

namespace Attribute

def all : List Attribute :=
  [.required, .type, .email, .url, .number, .min, .max, .minValue, .maxValue, .pattern,
   .validate, .label, .hint, .placeholder, .id, .className, .attrs, .ui]

/-- The written name of an attribute. -/
def name : Attribute → String
  | .required => "required"
  | .type => "type"
  | .email => "email"
  | .url => "url"
  | .number => "number"
  | .min => "min"
  | .max => "max"
  | .minValue => "min_value"
  | .maxValue => "max_value"
  | .pattern => "pattern"
  | .validate => "validate"
  | .label => "label"
  | .hint => "hint"
  | .placeholder => "placeholder"
  | .id => "id"
  | .className => "class_name"
  | .attrs => "attrs"
  | .ui => "ui"

/-- The set of the attributes with a property. -/
def those (p : Attribute → Bool) : List Attribute :=
  all.filter p

/-- The union of two sets. -/
def union (s t : List Attribute) : List Attribute :=
  those fun a => s.contains a || t.contains a

theorem mem_all (a : Attribute) : a ∈ all := by
  cases a <;> simp [all]

@[simp] theorem mem_those {p : Attribute → Bool} {a : Attribute} : a ∈ those p ↔ p a = true := by
  simp [those, mem_all]

@[simp] theorem mem_union {s t : List Attribute} {a : Attribute} :
    a ∈ union s t ↔ a ∈ s ∨ a ∈ t := by
  simp [union]

end Attribute
end FieldRules
