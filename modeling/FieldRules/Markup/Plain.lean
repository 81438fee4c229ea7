import FieldRules.Markup.FieldView

/-!
# Markup — Plain

The plain markup of a form: label, input and error place for each field, and
nothing that a presentation could change.
-/

namespace FieldRules.Markup.Plain

/-- The label of a field: its own, or the name with a capital. -/
def labelOf (name : String) (r : Rule) : Value :=
  givenOr r.label (.text (String.ofList (Text.capitalize name.toList)))

/-- The attributes of the input. -/
def inputAttributes (name : String) (r : Rule) : Dict :=
  let type := r.type.getD ""
  [(.text "type", .text (if type.isEmpty then "text" else type)),
   (.text "name", .text name), (.text "id", .text name),
   (.text "required", .bool r.required),
   (.text "minlength", .ofOption (r.min.map .int)),
   (.text "maxlength", .ofOption (r.max.map .int))]

/-- What a field is made of can be written. -/
def isWritableField (name : String) (r : Rule) : Bool :=
  (labelOf name r).isWritable && areWritable (inputAttributes name r)

def renderField (name : String) (r : Rule) (o : RenderOptions) : String :=
  Text.joinWith "\n"
    [tag "div" [(.text "class", textOrNull o.classes.fieldGroup)],
     "  <label for=\"" ++ escapeString name ++ "\">" ++ escape (labelOf name r) ++ "</label>",
     "  <input " ++ attributes (inputAttributes name r) ++ ">",
     "  <span " ++ attributes
       [(.text "class", textOrNull o.classes.error), (.text "id", .text ("error-" ++ name)),
        (.text "data-error-for", .text name)] ++ "></span>",
     "</div>"]

def renderFields (o : RenderOptions) : Named Value → Traced (List String)
  | [] => pure []
  | (name, raw) :: rest => do
    let rule ← Rule.normalize raw
    Traced.ofExcept (requireWritable (isWritableField name rule))
    let others ← renderFields o rest
    return renderField name rule o :: others

/-- The form around its groups. -/
def formMarkup (o : RenderOptions) (groups : List String) : String :=
  Text.joinWith "\n"
    (["<form " ++ attributes
        [(.text "action", .text o.form.action), (.text "method", .text o.form.method),
         (.text "class", textOrNull o.form.className), (.text "id", .text o.form.id)] ++ ">"] ++
      groups ++
      ["<button type=\"submit\">" ++ escapeString o.submit.text ++ "</button>", "</form>"])

/-- The plain markup of a form. -/
def renderForm (fields : Named Value) (o : RenderOptions) : Traced String := do
  let groups ← renderFields o fields
  return formMarkup o groups

end FieldRules.Markup.Plain
