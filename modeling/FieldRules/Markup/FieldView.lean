import FieldRules.Markup.Tag
import FieldRules.Options.Resolve
import FieldRules.Rule.Normalize

/-!
# Markup — FieldView

Everything that is settled about the markup of a field before any of it is
written: label, control, layout, classes and attributes.
-/

namespace FieldRules.Markup

/-! ## Attributes from rules -/

/-- Types of input that are written as they are; any other is written as `text`. -/
def inputTypes : List String :=
  ["text", "email", "password", "number", "url", "date", "tel", "search", "time",
   "datetime-local", "month", "week", "color", "range", "hidden", "checkbox", "radio", "file"]

/-- An entry under a name for something that may be absent. -/
def entryFor {α : Type} (name : String) (value : α → Value) : Option α → Dict
  | some a => [(.text name, value a)]
  | none => []

/-- The type that is written for a declared one, which is not empty. -/
def inputType (type : String) : String :=
  if inputTypes.contains type then type else "text"

/-- The attribute for the declared type. -/
def typeEntry (r : Rule) : Dict :=
  match r.type with
  | some type => if type.isEmpty then [] else [(.text "type", .text (inputType type))]
  | none => []

/-- The attributes that state constraints, other than the type. An empty pattern states none. -/
def constraintEntries (r : Rule) : Dict :=
  (if r.required then [(.text "required", .bool true)] else []) ++
  entryFor "minlength" .int r.min ++ entryFor "maxlength" .int r.max ++
  entryFor "min" Value.ofNumeric r.minValue ++ entryFor "max" Value.ofNumeric r.maxValue ++
  entryFor "pattern" .text (r.patternSource?.filter (!·.isEmpty))

/-- The attributes by which markup states a rule. -/
def nativeAttributes (r : Rule) : Dict :=
  typeEntry r ++ constraintEntries r

/-! ## Views -/

/-- The words of a name, each with a capital. -/
def prettify (name : String) : String :=
  let isGap (c : Char) : Bool := c == '_' || c == '-' || c == '.'
  let words := Text.words (name.toList.map fun c => if isGap c then ' ' else c)
  Text.joinWith " " (words.map fun w => String.ofList (Text.capitalize w))

structure FieldView where
  name : String
  label : Value
  control : Value
  variant : Value
  attrs : Dict
  rule : Rule
  hint : Value
  groupClass : String
  labelClass : String
  errorClass : String
  hintClass : String

namespace FieldView

/-- The id of the control, to which the label points. -/
def id (view : FieldView) : String :=
  let given := view.attrs.getD "id"
  if given.truthy then given.display else view.name

/-- `id` that can be written. -/
def id? (view : FieldView) : Except Fault String := do
  requireWritable (view.attrs.getD "id").isWritable
  return view.id

/-- The id of the place for the field's error. -/
def errorId (view : FieldView) : String :=
  "error-" ++ view.name

/-- In the floating layout the control comes before its label. -/
def isFloating (view : FieldView) : Bool :=
  Dict.keyIs "floating" view.variant

end FieldView

/-- A part of the presentation, if there is one. -/
def fromPresentation (r : Rule) (part : Presentation → Option Value) : Option Value :=
  r.ui.bind part

/-- What counts as given, or another value. -/
def givenOr (v : Option Value) (otherwise : Value) : Value :=
  match v with
  | some x => if x.truthy then x else otherwise
  | none => otherwise

/-- The attributes of the control. Those of the rule and of its presentation come last and
win. -/
def controlAttributes (name : String) (r : Rule) (placeholder : Value) (className : String) :
    Dict :=
  let type := ((typeEntry r).get? "type").getD (.text "text")
  let base : Dict :=
    [(.text "type", type), (.text "name", .text name),
     (.text "id", givenOr r.id (.text name))] ++ constraintEntries r ++
    [(.text "placeholder", placeholder), (.text "class", textOrNull className)]
  Dict.union (Dict.union base r.attrs) ((r.ui.map Presentation.attrs).getD [])

/-- The view of a field. A class that counts as given has to be a text. -/
def fieldView (name : String) (r : Rule) (o : RenderOptions) : Except Fault FieldView := do
  let part (p : Presentation → Option Value) : Option Value := fromPresentation r p
  let label := givenOr (part Presentation.label) (givenOr r.label (.text (prettify name)))
  let variant := givenOr (part Presentation.variant) (.text "default")
  let floating := Dict.keyIs "floating" variant
  let placeholder :=
    match r.placeholder with
    | some v => v
    | none => if floating then label else .null
  let inputClass ← joinClasses
    [.text o.classes.input, .ofOption r.className, .ofOption (part Presentation.inputClass)]
  let groupClass ← joinClasses
    [.text o.classes.fieldGroup, if floating then .text "form-floating" else .null,
     .ofOption (part Presentation.wrapperClass)]
  let labelClass ← joinClasses
    [.text o.classes.label, .ofOption (part Presentation.labelClass)]
  let errorClass ← joinClasses
    [.text o.classes.error, .ofOption (part Presentation.errorClass)]
  return {
    name, label, variant, groupClass, labelClass, errorClass
    control := givenOr (part Presentation.control) (.text "input")
    attrs := controlAttributes name r placeholder inputClass
    rule := r
    hint := givenOr (part Presentation.hint) (.ofOption r.hint)
    hintClass := o.classes.hint }

end FieldRules.Markup
