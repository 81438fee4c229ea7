import FieldRules.Form.Builder
import FieldRules.Markup.Form
import FieldRules.Markup.Plain

/-!
# Form — Generate

A configuration rendered through an adapter. An adapter that cannot render
forms leaves it to the plain markup.
-/

namespace FieldRules

/-- Something that may render forms, and the name it is logged under. -/
structure Adapter where
  name : String
  render? : Option (Schema → RenderOptions → Traced Value)

/-- The fields of a schema as they are rendered. -/
def Schema.toFields (s : Schema) : Named Value :=
  s.fields.map fun f => (f.1, .rule f.2)

namespace Adapter

/-- The adapter for the full markup. -/
def markup (kit : Markup.Toolkit) : Adapter where
  name := "HtmlAdapter"
  render? := some fun schema o => do
    return .text (← Markup.renderForm kit schema.toFields o)

end Adapter

namespace Builder

def generated (fields : Nat) (a : Adapter) : Event where
  name := "form_generated"
  severity := .debug
  channel := .render
  values :=
    [("fields", .int fields), ("adapter", .text a.name),
     ("fallback", .bool a.render?.isNone)]

/-- The result of rendering a configuration. It has to be a list, and an adapter has to be there,
before anything else is looked at. -/
def generate (config : Value) (adapter : Option Adapter) (options : Except Fault RenderOptions) :
    Traced Value := do
  let _ ← Traced.ofExcept (entriesOf config)
  match adapter with
  | none => Traced.fault (.usage (UsageError.missingAdapter "builder"))
  | some a =>
    let (schema, resolved) ← build config options
    Traced.log (generated schema.size a)
    match a.render? with
    | some render => render schema resolved
    | none => return .text (← Markup.Plain.renderForm schema.toFields resolved)

end Builder
end FieldRules
