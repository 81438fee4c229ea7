import FieldRules.Markup.Control

/-!
# Markup — Form

The full markup of a form. Each field is a group with label, control, an
optional hint, and a place for its error that is always there.
-/

namespace FieldRules.Markup

/-! ## Parts of a field -/

def renderLabel (view : FieldView) : String :=
  element "label" [(.text "for", .text view.id), (.text "class", textOrNull view.labelClass)]
    view.label

def renderHint (view : FieldView) : String :=
  element "small"
    [(.text "class", textOrNull view.hintClass), (.text "id", .text ("hint-" ++ view.name))]
    view.hint

/-- The place for the error, found by its id or by the name of the field. -/
def renderError (view : FieldView) : String :=
  tag "span"
    [(.text "class", textOrNull view.errorClass), (.text "id", .text view.errorId),
     (.text "data-error-for", .text view.name)] ++ "</span>"

/-- The parts of a field in their order. -/
def fieldParts (view : FieldView) (control : String) : List String :=
  (if view.isFloating then [control, renderLabel view] else [renderLabel view, control]) ++
  (if view.hint.truthy then [renderHint view] else []) ++ [renderError view]

/-- The group of a field, its parts indented. -/
def renderGroup (view : FieldView) (control : String) : String :=
  tag "div"
    [(.text "class", textOrNull view.groupClass), (.text "data-field", .text view.name)] ++
  "\n" ++ Text.joinWith "\n" ((fieldParts view control).map ("  " ++ ·)) ++ "\n</div>"

/-! ## Fields and forms -/

/-- What forms are rendered with: the controls, and what custom functions do. -/
structure Toolkit where
  renderers : Renderers
  controls : Controls := Controls.standard

/-- The markup of a field, or what the rule's own function makes of it. -/
def renderField (kit : Toolkit) (name : String) (r : Rule) (o : RenderOptions) :
    Except Fault String := do
  let view ← fieldView name r o
  match r.renderOverride? with
  | some f =>
    let markup ← renderControl kit.renderers kit.controls o nestingLimit (.custom f) view
    requireWritable markup.isWritable
    return markup.display
  | none =>
    let control ← chosenControl kit.controls view.control
    let markup ← renderControl kit.renderers kit.controls o nestingLimit control view
    let _ ← view.id?
    requireWritable (view.label.isWritable && view.hint.isWritable && markup.isWritable)
    return renderGroup view markup.display

def submitAttributes (o : SubmitOptions) : Dict :=
  Dict.union [(.text "type", .text "submit"), (.text "class", textOrNull o.className)] o.attrs

def renderSubmit (o : RenderOptions) : String :=
  element "button" (submitAttributes o.submit) (.text o.submit.text)

def formAttributes (o : FormOptions) : Dict :=
  Dict.union
    [(.text "id", .text o.id), (.text "action", .text o.action),
     (.text "method", .text o.method), (.text "class", textOrNull o.className)]
    o.attrs

/-- The fields of a form, each rule normalized right before it is rendered. -/
def renderFields (kit : Toolkit) (o : RenderOptions) :
    Named Value → Traced (List String)
  | [] => pure []
  | (name, raw) :: rest => do
    let rule ← Rule.normalize raw
    let field ← Traced.ofExcept (renderField kit name rule o)
    let others ← renderFields kit o rest
    return field :: others

/-- The form around its groups. -/
def formMarkup (o : RenderOptions) (groups : List String) : String :=
  Text.joinWith "\n"
    ([tag "form" (formAttributes o.form)] ++ groups ++ [renderSubmit o, "</form>"])

/-- The markup of a form. -/
def renderForm (kit : Toolkit) (fields : Named Value) (o : RenderOptions) :
    Traced String := do
  Traced.ofExcept (requireWritable (areWritable (formAttributes o.form)))
  let groups ← renderFields kit o fields
  Traced.ofExcept (requireWritable (areWritable (submitAttributes o.submit)))
  return formMarkup o groups

end FieldRules.Markup
