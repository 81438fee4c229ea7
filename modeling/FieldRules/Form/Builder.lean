import FieldRules.Form.Schema
import FieldRules.Options.Resolve
import FieldRules.Rule.Normalize

/-!
# Form — Builder

From a list of field entries to a schema and options. An entry is merged with
the rules it holds, which win; its presentation stands apart from both. An
entry of type `submit` describes the button instead of a field, and entries
without a name are left out.
-/

namespace FieldRules.Builder

/-- The presentation that an entry gives. -/
def entryPresentation (entry : Dict) : Option Presentation :=
  (entry.getD "ui").presentation?

/-- The rule of an entry. -/
def fieldRule (entry : Dict) : Traced Rule := do
  let base ← Traced.ofExcept (Rule.ofDict (entry.without ["rules", "ui"]))
  let rules ← Rule.normalize (entry.getD "rules")
  return { base.mergedWith rules with ui := entryPresentation entry }

/-- The class that an entry gives to the button. -/
def submitClass (entry : Dict) : Value :=
  (entry.get? "className").getD (entry.getD "class_name")

/-- What an entry says about the button can be written. -/
def isWritableSubmit (entry : Dict) : Bool :=
  (entry.getD "value").isWritable && (submitClass entry).isWritable

/-- The button with what an entry says about it. -/
def applySubmit (entry : Dict) (o : SubmitOptions) : SubmitOptions :=
  let value := entry.getD "value"
  let className := submitClass entry
  { text := if value.truthy then value.display else o.text
    className := if className.truthy then className.display else o.className
    attrs :=
      match entry.get? "attrs" with
      | some (.dict attrs) => o.attrs.union attrs
      | _ => o.attrs }

/-- A schema under way, with its options. -/
abbrev Draft := Schema × RenderOptions

/-- The entry describes the button. -/
def isSubmit (entry : Dict) : Bool :=
  match entry.get? "type" with
  | some (.text s) => s == "submit"
  | _ => false

/-- The draft with one entry more. What is no mapping is left out. -/
def addEntry (draft : Draft) (entry : Value) : Traced Draft := do
  match entry with
  | .dict d =>
    if isSubmit d then
      Traced.ofExcept (requireWritable (isWritableSubmit d))
      return (draft.1, { draft.2 with submit := applySubmit d draft.2.submit })
    else
      let name := Dict.getD d "name"
      if name.truthy then
        -- the rule is read before the name is written, so its faults come first
        let rule ← fieldRule d
        Traced.ofExcept (requireWritable name.isWritable)
        let _ ← Traced.ofExcept (rule.compiledPattern (.text name.display))
        return (draft.1.add name.display rule, draft.2)
      else return draft
  | _ => return draft

/-- The draft with further entries. -/
def addEntries : Draft → List Value → Traced Draft
  | draft, [] => pure draft
  | draft, entry :: rest => do
    let next ← addEntry draft entry
    addEntries next rest

/-- The entries of a configuration, which has to be a list. -/
def entriesOf : Value → Except Fault (List Value)
  | .list entries => .ok entries
  | .tuple entries => .ok entries
  | config => .error (.usage (UsageError.invalidConfig config "builder"))

/-- The schema and the options of a configuration. The options are resolved once the
configuration is known to be a list. -/
def build (config : Value) (options : Except Fault RenderOptions) : Traced Draft := do
  let entries ← Traced.ofExcept (entriesOf config)
  let resolved ← Traced.ofExcept options
  addEntries (Schema.empty, resolved) entries

end FieldRules.Builder
