import FieldRules.Fault

/-!
# Settings

The defaults of a deployment. Every setting has a variable in the environment,
and a value that it has where the variable is not set.
-/

namespace FieldRules

structure Settings where
  logLevel : String := "INFO"
  logJson : Bool := false
  formId : String := "generated-form"
  formAction : String := "#"
  formMethod : String := "POST"
  formClass : String := "form"
  submitText : String := "Submit"
  fieldGroupClass : String := "field-group"
  errorClass : String := "error-msg"
  hintClass : String := "hint"
  inputErrorClass : String := "input-error"
deriving DecidableEq, Repr

/-- The values of variables by their names in capitals: those that the process has, or else those
that the file of variables beside it sets. -/
abbrev Environment := String → Option String

/-- The settings whose texts come from the variables of an environment. -/
def Settings.ofVariables (env : Environment) (logJson : Bool) : Settings :=
  let text (name default : String) : String := (env ("UNIVAL_" ++ name)).getD default
  let base : Settings := {}
  { logLevel := text "LOG_LEVEL" base.logLevel
    logJson
    formId := text "FORM_ID" base.formId
    formAction := text "FORM_ACTION" base.formAction
    formMethod := text "FORM_METHOD" base.formMethod
    formClass := text "FORM_CLASS" base.formClass
    submitText := text "SUBMIT_TEXT" base.submitText
    fieldGroupClass := text "FIELD_GROUP_CLASS" base.fieldGroupClass
    errorClass := text "ERROR_CLASS" base.errorClass
    hintClass := text "HINT_CLASS" base.hintClass
    inputErrorClass := text "INPUT_ERROR_CLASS" base.inputErrorClass }

/-- The variable of the one setting that is no text. -/
def Settings.logJsonVariable : String := "UNIVAL_LOG_JSON"

/-- Words for a truth value. -/
def Settings.truthWords : List String := ["1", "t", "true", "y", "yes", "on"]

/-- Words for a falsehood. -/
def Settings.falsehoodWords : List String := ["0", "f", "false", "n", "no", "off"]

end FieldRules
