import FieldRules.Value.Basic
import FieldRules.Text.Quoted

/-!
# Value — Text

Three texts of a value. `literal` shows what the value is, as inside a list;
`display` is the same except that a text stands for itself; `asText` is how
the value arrives when a form is submitted, with nothing for `null`, small
letters for truth values and whole numbers without a fraction. Rules and
checks ask for `display?` and `asText?`, which refuse a value that holds an
integer too long to be written.
-/

namespace FieldRules

private def between (opening : String) (items : List String) (closing : String) : String :=
  opening ++ Text.joinWith ", " items ++ closing

private def named (name : String) (text : String) : String :=
  name ++ "=" ++ text

def truthText (b : Bool) : String := if b then "True" else "False"

/-- The shown form of something that may be absent. -/
def optionText {α : Type} (show' : α → String) : Option α → String
  | none => "None"
  | some a => show' a

def PatternSpec.literal : PatternSpec → String
  | .source s => Text.quotedString s
  | .compiled p => p.text

mutual

/-- The value as it is shown inside other values. -/
def Value.literal : Value → String
  | .null => "None"
  | .bool b => truthText b
  | .int n => Number.integerText n
  | .float x => x.text
  | .text s => Text.quotedString s
  | .list items => between "[" (Value.literals items) "]"
  | .tuple items =>
    match items with
    | [] => "()"
    | [x] => "(" ++ x.literal ++ ",)"
    | items => between "(" (Value.literals items) ")"
  | .dict entries => between "\x7b" (Value.entryLiterals entries) "\x7d"
  | .pattern p => p.text
  | .function _ => "<function>"
  | .rule r => r.literal
  | .presentation p => p.literal

def Value.literals : List Value → List String
  | [] => []
  | x :: xs => x.literal :: Value.literals xs

def Value.entryLiterals : List (Value × Value) → List String
  | [] => []
  | (k, v) :: es => (k.literal ++ ": " ++ v.literal) :: Value.entryLiterals es

def Value.optionalLiteral : Option Value → String
  | none => "None"
  | some v => v.literal

def Rule.literal : Rule → String
  | ⟨required, type, email, url, number, min, max, minValue, maxValue, pattern, validate, label,
      hint, placeholder, id, className, attrs, ui, extras, _⟩ =>
    between "RuleDescriptor("
      [named "required" (truthText required),
       named "type" (optionText Text.quotedString type),
       named "email" (truthText email), named "url" (truthText url),
       named "number" (truthText number),
       named "min" (optionText Number.integerText min),
       named "max" (optionText Number.integerText max),
       named "min_value" (optionText Number.Numeric.text minValue),
       named "max_value" (optionText Number.Numeric.text maxValue),
       named "pattern" (optionText PatternSpec.literal pattern),
       named "validate" (optionText (fun _ => "<function>") validate),
       named "label" (Value.optionalLiteral label), named "hint" (Value.optionalLiteral hint),
       named "placeholder" (Value.optionalLiteral placeholder),
       named "id" (Value.optionalLiteral id),
       named "class_name" (Value.optionalLiteral className),
       named "attrs" (between "\x7b" (Value.entryLiterals attrs) "\x7d"),
       named "ui" (Presentation.optionalLiteral ui),
       named "extras" (between "\x7b" (Value.entryLiterals extras) "\x7d")] ")"

def Presentation.literal : Presentation → String
  | ⟨variant, control, label, hint, wrapperClass, labelClass, inputClass, errorClass, render,
      attrs, extras⟩ =>
    between "UIOptions("
      [named "variant" (Value.optionalLiteral variant),
       named "control" (Value.optionalLiteral control),
       named "label" (Value.optionalLiteral label), named "hint" (Value.optionalLiteral hint),
       named "wrapper_class" (Value.optionalLiteral wrapperClass),
       named "label_class" (Value.optionalLiteral labelClass),
       named "input_class" (Value.optionalLiteral inputClass),
       named "error_class" (Value.optionalLiteral errorClass),
       named "render" (optionText (fun _ => "<function>") render),
       named "attrs" (between "\x7b" (Value.entryLiterals attrs) "\x7d"),
       named "extras" (between "\x7b" (Value.entryLiterals extras) "\x7d")] ")"

def Presentation.optionalLiteral : Option Presentation → String
  | none => "None"
  | some p => p.literal

end

/-! ## Integers that are too long -/

mutual

/-- No integer in the value is too long to be written. -/
def Value.isWritable : Value → Bool
  | .null => true
  | .bool _ => true
  | .int n => Number.isWritable n
  | .float _ => true
  | .text _ => true
  | .list items => Value.areWritable items
  | .tuple items => Value.areWritable items
  | .dict entries => Value.entriesWritable entries
  | .pattern _ => true
  | .function _ => true
  | .rule r => r.isWritable
  | .presentation p => p.isWritable

def Value.areWritable : List Value → Bool
  | [] => true
  | v :: vs => v.isWritable && Value.areWritable vs

def Value.entriesWritable : List (Value × Value) → Bool
  | [] => true
  | (k, v) :: es => k.isWritable && v.isWritable && Value.entriesWritable es

def Value.optionalWritable : Option Value → Bool
  | none => true
  | some v => v.isWritable

def Rule.isWritable : Rule → Bool
  | ⟨_, _, _, _, _, min, max, minValue, maxValue, _, _, label, hint, placeholder, id, className,
      attrs, ui, extras, _⟩ =>
    min.all Number.isWritable && max.all Number.isWritable &&
    minValue.all Number.Numeric.isWritable && maxValue.all Number.Numeric.isWritable &&
    Value.optionalWritable label && Value.optionalWritable hint &&
    Value.optionalWritable placeholder && Value.optionalWritable id &&
    Value.optionalWritable className && Value.entriesWritable attrs &&
    Presentation.optionalWritable ui && Value.entriesWritable extras

def Presentation.isWritable : Presentation → Bool
  | ⟨variant, control, label, hint, wrapperClass, labelClass, inputClass, errorClass, _,
      attrs, extras⟩ =>
    Value.optionalWritable variant && Value.optionalWritable control &&
    Value.optionalWritable label && Value.optionalWritable hint &&
    Value.optionalWritable wrapperClass && Value.optionalWritable labelClass &&
    Value.optionalWritable inputClass && Value.optionalWritable errorClass &&
    Value.entriesWritable attrs && Value.entriesWritable extras

def Presentation.optionalWritable : Option Presentation → Bool
  | none => true
  | some p => p.isWritable

end

/-! ## Texts of whole values -/

namespace Value

/-- The value as it is shown on its own: a text stands for itself. -/
def display : Value → String
  | .text s => s
  | v => v.literal

/-- The value as a submitted form would carry it. -/
def asText : Value → String
  | .null => ""
  | .bool b => if b then "true" else "false"
  | .float x =>
    match x.truncate? with
    | some n => if x.isIntegral then Number.integerText n else x.text
    | none => x.text
  | v => v.display

/-- Nothing but white space is left of the value. -/
def isEmpty (v : Value) : Bool :=
  v.isNull || Text.isBlankString v.asText

/-- `f v` for a value that can be written. -/
def ifWritable {α : Type} (f : Value → α) (v : Value) : Except Number.Excess α :=
  if v.isWritable then .ok (f v) else .error .writing

/-- `display` of a value that can be written. -/
def display? : Value → Except Number.Excess String := ifWritable display

/-- `asText` of a value that can be written. -/
def asText? : Value → Except Number.Excess String := ifWritable asText

/-- `isEmpty` of a value that can be written. -/
def isEmpty? : Value → Except Number.Excess Bool := ifWritable isEmpty

@[simp] theorem asText_text (s : String) : asText (.text s) = s := rfl

theorem isEmpty_text (s : String) : isEmpty (.text s) = Text.isBlankString s := rfl

@[simp] theorem isEmpty_null : isEmpty .null = true := rfl

end Value
end FieldRules
