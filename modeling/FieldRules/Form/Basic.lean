import FieldRules.Form.Generate
import FieldRules.Validation.Record

/-!
# Form — Basic

Rules kept together with what is needed to render and validate by them. A
form remembers the id under which it was last rendered.
-/

namespace FieldRules

structure Form where
  rules : Named Value
  /-- The configuration that the form was made from, if it was made from one. -/
  config : Option (List Value)
  formId : String
  /-- The class that marks a control as invalid. -/
  inputErrorClass : Value

namespace Form

/-- The name and the rule that a pair holds. -/
def entryOf (pair : Value) : Except Fault (String × Value) :=
  match pair.items? with
  | some [key, raw] => if key.isKey then .ok (key.display, raw) else .error .unhashable
  | some _ => .error .notPair
  | none => .error .notIterable

/-- Rules by field name, from a mapping or from pairs; later pairs win. -/
def rulesOf (v : Value) : Except Fault (Named Value) :=
  if v.truthy then
    match v with
    | .dict entries => .ok (entries.map fun e => (e.1.display, e.2))
    | v =>
      match v.items? with
      | some pairs =>
        pairs.foldlM
          (fun rules pair => do
            let (name, raw) ← entryOf pair
            return Named.put name raw rules)
          []
      | none => .error .notIterable
  else .ok []

/-- A form with rules by field name. -/
def ofRules (deployment : Deployment) (rules : Named Value) (inputErrorClass : Value) :
    Except Fault Form := do
  let settings ← deployment.settings
  return {
    rules, config := none, formId := settings.formId
    inputErrorClass :=
      if inputErrorClass.truthy then inputErrorClass else .text settings.inputErrorClass }

/-- A form with the fields of a configuration. -/
def ofConfig (deployment : Deployment) (config : Value) (inputErrorClass : Value) :
    Traced Form := do
  let (schema, _) ← Builder.build config (Options.resolve deployment .null)
  let entries ← Traced.ofExcept (Builder.entriesOf config)
  let form ← Traced.ofExcept (ofRules deployment schema.toFields inputErrorClass)
  return { form with config := some entries }

/-- Validates a record by the rules of the form. -/
def validate (validators : Validators) (form : Form) (data : Value) : Traced Validation :=
  FieldRules.validate validators data (.dict (Dict.ofNames form.rules))

/-- The configuration that stands for the form: its own, or one entry for each rule. -/
def configuration (form : Form) : Value :=
  match form.config with
  | some entries => .list entries
  | none =>
    .list (form.rules.map fun r => .dict [(.text "name", .text r.1), (.text "rules", r.2)])

/-- The form under the id of options, if these can be resolved. -/
def remember (form : Form) (options : Except Fault RenderOptions) : Form :=
  match options with
  | .ok o => { form with formId := o.form.id }
  | .error _ => form

/-- The plain markup of the form. The form is returned with the id it was rendered under. -/
def render (deployment : Deployment) (form : Form) (options : Value) : Form × Traced String :=
  let resolved := Options.resolve deployment options
  (form.remember resolved, do
    Markup.Plain.renderForm form.rules (← Traced.ofExcept resolved))

/-- The form rendered through an adapter. The form is returned with the id it was rendered
under. -/
def generate (deployment : Deployment) (form : Form) (adapter : Option Adapter) (options : Value) :
    Form × Traced Value :=
  let resolved := Options.resolve deployment options
  (form.remember resolved, do
    let o ← Traced.ofExcept resolved
    Builder.generate form.configuration adapter (.ok o))

/-- The form with a rule for a field, in the place of the one before. -/
def setRule (form : Form) (name : String) (raw : Value) : Form :=
  { form with rules := Named.put name raw form.rules }

/-- The form without the rule of a field. -/
def removeRule (form : Form) (name : String) : Form :=
  { form with rules := Named.erase name form.rules }

end Form
end FieldRules
