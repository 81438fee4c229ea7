import FieldRules.Markup.FieldView

/-!
# Markup — Control

The element with which a field is filled in: an input, a text area, a
selection, or whatever a custom function makes of the field's view.
-/

namespace FieldRules.Markup

/-! ## Built-in controls -/

def renderInput (view : FieldView) : String :=
  tag "input" view.attrs

/-- The current value of a field: that of its attributes if they have one, or the extra of the
rule. -/
def currentValue (view : FieldView) : Value :=
  match view.attrs.get? "value" with
  | some v => v
  | none => Dict.getD view.rule.extras "value"

/-- Attributes without a meaning on a text area. -/
def areaDropped : List String := ["type", "pattern", "min", "max", "value"]

def renderArea (view : FieldView) : String :=
  element "textarea" (view.attrs.without areaDropped) (currentValue view)

/-- What a text area is made of can be written. -/
def isWritableArea (view : FieldView) : Bool :=
  areWritable (view.attrs.without areaDropped) && (currentValue view).isWritable

/-- Attributes without a meaning on a selection. -/
def selectionDropped : List String :=
  ["type", "pattern", "min", "max", "minlength", "maxlength", "placeholder", "value"]

/-- One choice of a selection, from an item of a list: a mapping with value and label, a pair of
them, or both in one. -/
def choiceOf : Value → Value × Value
  | .dict d =>
    let value := Dict.getD d "value"
    (value, (Dict.get? d "label").getD value)
  | .list [value, label] => (value, label)
  | .tuple [value, label] => (value, label)
  | v => (v, v)

/-- The choices of a selection, each with its value and its label. -/
def choices (options : Value) : Except Fault (List (Value × Value)) :=
  match options with
  | .dict d => .ok d
  | v =>
    if v.truthy then
      match v.items? with
      | some items => .ok (items.map choiceOf)
      | none => .error .notIterable
    else .ok []

/-- The line for a choice; `selected` is the text of the current value. -/
def choiceLine (selected : Option String) (choice : Value × Value) : String :=
  let value := choice.1.asText
  "  " ++ element "option"
    [(.text "value", .text value), (.text "selected", .bool (selected == some value))] choice.2

/-- The line for an empty choice that shows the placeholder. -/
def placeholderLines (r : Rule) : List String :=
  match r.placeholder with
  | some v => if v.truthy then ["  <option value=\"\">" ++ escape v ++ "</option>"] else []
  | none => []

/-- What a selection is made of, other than its choices, can be written. -/
def isWritableSelection (view : FieldView) : Bool :=
  (currentValue view).isWritable && areWritable (view.attrs.without selectionDropped) &&
  Value.optionalWritable view.rule.placeholder

/-- A selection with these choices. -/
def selectionOf (view : FieldView) (list : List (Value × Value)) : String :=
  let current := currentValue view
  let selected := if current.isNull then none else some current.asText
  Text.joinWith "\n"
    ([tag "select" (view.attrs.without selectionDropped)] ++ placeholderLines view.rule ++
      list.map (choiceLine selected) ++ ["</select>"])

def renderSelection (view : FieldView) : Except Fault String := do
  requireWritable (isWritableSelection view)
  let list ← choices (Dict.getD view.rule.extras "options")
  requireWritable (Value.entriesWritable list)
  return selectionOf view list

/-! ## Kinds of control -/

/-- How a kind of control is rendered. -/
inductive Control where
  | input
  | area
  | selection
  | custom (f : Handle)
deriving DecidableEq

/-- Controls by kind. -/
abbrev Controls := Named Control

namespace Controls

def standard : Controls :=
  [("input", .input), ("textarea", .area), ("select", .selection)]

/-- The controls with one for a kind, in place of the one before. -/
def register (controls : Controls) (kind : String) (c : Control) : Controls :=
  Named.put kind c controls

end Controls

/-- What a custom function may use: the texts of attributes and of values, the options, and the
control of any kind. -/
structure RenderContext where
  attributes : Dict → Except Fault String
  escape : Value → Except Fault String
  options : RenderOptions
  control : String → FieldView → Except Fault Value

/-- What the custom functions make of a view, by their handles. -/
abbrev Renderers := Handle → FieldView → RenderContext → Except Fault Value

/-- Controls that render one another are followed this far. -/
def nestingLimit : Nat := 900

/-- The control of a kind, which has to be registered. -/
def controlOf (controls : Controls) (kind : String) : Except Fault Control :=
  match controls.lookup kind with
  | some c => .ok c
  | none => .error (.missing kind)

/-- The markup of a control, custom functions being followed for `depth` levels. -/
def renderControl (renderers : Renderers) (controls : Controls) (o : RenderOptions) :
    Nat → Control → FieldView → Except Fault Value
  | _, .input, view => do
    requireWritable (areWritable view.attrs)
    return .text (renderInput view)
  | _, .area, view => do
    requireWritable (isWritableArea view)
    return .text (renderArea view)
  | _, .selection, view => do return .text (← renderSelection view)
  | 0, .custom _, _ => .error .endlessRendering
  | depth + 1, .custom f, view =>
    -- a function may ask for any control, its own kind included, one level further down
    renderers f view
      { attributes := attributes?
        escape := escape?
        options := o
        control := fun kind inner => do
          renderControl renderers controls o depth (← controlOf controls kind) inner }

/-- The control that a view asks for; an unknown kind is an input. -/
def chosenControl (controls : Controls) (kind : Value) : Except Fault Control :=
  match kind with
  | .text name =>
    match controls.lookup name with
    | some c => .ok c
    | none => controlOf controls "input"
  | v => if v.isKey then controlOf controls "input" else .error .unhashable

end FieldRules.Markup
