import FieldRules.Value.Dict
import FieldRules.Value.Text

/-!
# Rule — Spelling

The keys under which a mapping may give an attribute. Some attributes have
several spellings, of which the first that is given counts.
-/

namespace FieldRules

namespace Attribute

/-- The keys for an attribute of a rule, the preferred one first. -/
def spellings : Attribute → List String
  | .min => ["min", "minLength", "min_length"]
  | .max => ["max", "maxLength", "max_length"]
  | .minValue => ["minValue", "min_value"]
  | .maxValue => ["maxValue", "max_value"]
  | .className => ["class_name", "className"]
  | a => [a.name]

/-- The formats of which a declared type switches one on and the others off. -/
def formats : List Attribute := [.email, .url, .number]

end Attribute

/-- Keys of a rule mapping that stand for something other than an extra. -/
def Rule.knownKeys : List String :=
  "rules" :: Attribute.all.flatMap Attribute.spellings

namespace Presentation

def wrapperClassSpellings : List String := ["wrapper_class", "wrapperClass"]
def labelClassSpellings : List String := ["label_class", "labelClass"]
def inputClassSpellings : List String := ["input_class", "inputClass"]
def errorClassSpellings : List String := ["error_class", "errorClass"]

/-- Keys of a presentation mapping that stand for something other than an extra. -/
def knownKeys : List String :=
  ["variant", "control", "label", "hint", "render", "attrs"] ++ wrapperClassSpellings ++
    labelClassSpellings ++ inputClassSpellings ++ errorClassSpellings

end Presentation

namespace Value

/-- The mapping that a value is. -/
def dict? : Value → Option Dict
  | .dict d => some d
  | _ => none

/-- The function that a value is. -/
def function? : Value → Option Handle
  | .function f => some f
  | _ => none

/-- The pattern that a value is; an empty source is none. -/
def patternSpec? : Value → Option PatternSpec
  | .text s => if s.isEmpty then none else some (.source s)
  | .pattern p => some (.compiled p)
  | _ => none

end Value
end FieldRules
