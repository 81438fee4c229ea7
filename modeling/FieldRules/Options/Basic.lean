import FieldRules.Settings
import FieldRules.Value.Dict

/-!
# Options — Basic

The options of rendering: the form element, the button that submits it, and
the classes of the elements of a field. Each option is declared with a name,
its other spelling and the setting that stands for it where it is not given.
-/

namespace FieldRules

structure FormOptions where
  id : String
  action : String
  method : String
  className : String
  attrs : Dict

structure SubmitOptions where
  text : String
  className : String
  attrs : Dict

structure ClassOptions where
  fieldGroup : String
  label : String
  input : String
  error : String
  hint : String

structure RenderOptions where
  form : FormOptions
  submit : SubmitOptions
  classes : ClassOptions

namespace Options

/-! ## Sections -/

/-- The sections of options. -/
inductive Part where
  | form
  | submit
  | classes
deriving DecidableEq

def Part.name : Part → String
  | .form => "form"
  | .submit => "submit"
  | .classes => "classes"

/-- What the options are made of: one mapping for each section. -/
structure Sections where
  form : Dict
  submit : Dict
  classes : Dict

def Sections.part (s : Sections) : Part → Dict
  | .form => s.form
  | .submit => s.submit
  | .classes => s.classes

/-- The attributes that a section holds. -/
def Sections.attrs (s : Sections) (p : Part) : Dict :=
  match (s.part p).get? "attrs" with
  | some (.dict attrs) => attrs
  | _ => []

/-- The attributes as they are resolved. Classes have none. -/
def Part.attrs (o : RenderOptions) : Part → Dict
  | .form => o.form.attrs
  | .submit => o.submit.attrs
  | .classes => []

/-! ## Declarations -/

/-- The options that are texts. -/
inductive TextOption where
  | formId
  | action
  | method
  | formClass
  | submitText
  | submitClass
  | fieldGroup
  | label
  | input
  | error
  | hint
deriving DecidableEq

namespace TextOption

/-- The options in the order of their declarations. -/
def all : List TextOption :=
  [.formId, .action, .method, .formClass, .submitText, .submitClass, .fieldGroup, .label, .input,
   .error, .hint]

def part : TextOption → Part
  | .formId | .action | .method | .formClass => .form
  | .submitText | .submitClass => .submit
  | .fieldGroup | .label | .input | .error | .hint => .classes

/-- The name under which an option is declared. -/
def name : TextOption → String
  | .formId => "id"
  | .action => "action"
  | .method => "method"
  | .formClass | .submitClass => "class_name"
  | .submitText => "text"
  | .fieldGroup => "field_group"
  | .label => "label"
  | .input => "input"
  | .error => "error"
  | .hint => "hint"

/-- The spelling of the name with capitals, which counts first. -/
def capitalName : TextOption → String
  | .formClass | .submitClass => "className"
  | .fieldGroup => "fieldGroup"
  | x => x.name

/-- The setting that stands for an option, if there is one. -/
def setting? (settings : Settings) : TextOption → Option String
  | .formId => some settings.formId
  | .action => some settings.formAction
  | .method => some settings.formMethod
  | .formClass => some settings.formClass
  | .submitText => some settings.submitText
  | .fieldGroup => some settings.fieldGroupClass
  | .error => some settings.errorClass
  | .hint => some settings.hintClass
  | .submitClass | .label | .input => none

/-- Some setting stands for the option. -/
def hasSetting (x : TextOption) : Bool := (x.setting? {}).isSome

/-- The option as it is resolved. -/
def value (o : RenderOptions) : TextOption → String
  | .formId => o.form.id
  | .action => o.form.action
  | .method => o.form.method
  | .formClass => o.form.className
  | .submitText => o.submit.text
  | .submitClass => o.submit.className
  | .fieldGroup => o.classes.fieldGroup
  | .label => o.classes.label
  | .input => o.classes.input
  | .error => o.classes.error
  | .hint => o.classes.hint

/-- What sections hold for an option. -/
def found? (s : Sections) (x : TextOption) : Option Value :=
  ((s.part x.part).get? x.capitalName).or ((s.part x.part).get? x.name)

end TextOption

end Options
end FieldRules
