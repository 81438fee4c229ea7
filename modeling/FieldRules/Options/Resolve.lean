import FieldRules.Options.Library
import FieldRules.Value.Text

/-!
# Options — Resolve

Reading options. They are given in three sections, some also by keys of their
own, and may have their keys in either spelling. What the library of models
says about options that do not fit is reported as misuse.
-/

namespace FieldRules.Options

/-! ## Sections -/

/-- The key of an entry of a section in its common spelling. A key in which no low line can be
looked for is refused. -/
def sectionKey (library : Library) : Value → Except Fault Value
  | .text s => if s.toList.contains '_' then .text <$> library.camel (.text s) else .ok (.text s)
  | .tuple items =>
    if items.any (Dict.keyIs "_") then .text <$> library.camel (.tuple items)
    else .ok (.tuple items)
  | _ => .error .keyNotText

/-- The entries that are not `null`, their keys in the common spelling. -/
def sectionEntries (library : Library) : Dict → Except Fault Dict
  | [] => .ok []
  | (k, v) :: rest =>
    if v.isNull then sectionEntries library rest
    else do
      let key ← sectionKey library k
      return (key, v) :: (← sectionEntries library rest)

/-- The section under a key, empty where there is no mapping. -/
def sectionOf (library : Library) (options : Dict) (p : Part) : Except Fault Dict :=
  match options.get? p.name with
  | some (.dict d) => do return Dict.ofEntries (← sectionEntries library d)
  | _ => .ok []

/-- An entry for an option that is given. -/
def flatEntry (name : String) (v : Value) : Dict :=
  if v.isNull then [] else [(.text name, v)]

/-- The options of the form that are given outside its section. -/
def flatForm (options : Dict) : Dict :=
  flatEntry "id" (options.getD "formId") ++
  flatEntry "action" (options.getD "action") ++
  flatEntry "method" (options.getD "method") ++
  flatEntry "className" ((options.get? "className").getD (options.getD "class_name"))

/-- The options of the button that are given outside its section. -/
def flatSubmit (options : Dict) : Dict :=
  let text := options.getD "submitText"
  if text.truthy then [(.text "text", text)] else []

/-- The mapping without an entry that does not count as given. -/
def dropBlank (d : Dict) (name : String) : Dict :=
  if (d.getD name).truthy then d else d.erase name

/-- The sections of options, with the flat keys moved into them. -/
def Sections.ofDict (library : Library) (options : Dict) : Except Fault Sections := do
  let form ← sectionOf library options .form
  let submit ← sectionOf library options .submit
  let classes ← sectionOf library options .classes
  return {
    form := dropBlank (Dict.union (flatForm options) form) "id"
    submit := dropBlank (Dict.union (flatSubmit options) submit) "text"
    classes }

/-! ## Resolving -/

/-- The options that sections stand for. -/
def Sections.resolve (s : Sections) (deployment : Deployment) : Except Fault RenderOptions :=
  match deployment.library.options deployment.settings s with
  | .error (.unfit text complaints) =>
    .error (.usage (UsageError.unfitOptions text complaints "options"))
  | result => result

/-- The options that a value describes. -/
def resolve (deployment : Deployment) (raw : Value) : Except Fault RenderOptions :=
  let read (d : Dict) : Except Fault RenderOptions := do
    (← Sections.ofDict deployment.library d).resolve deployment
  if raw.truthy then
    match raw with
    | .dict d => read d
    | _ => .error (.usage
        (UsageError.invalidOptions ("expected a mapping, got " ++ raw.typeName) "options"))
  else read []

end FieldRules.Options
