import FieldRules.Options.Key
import FieldRules.Options.Library
import FieldRules.Rule.Spelling

/-!
# Options — Standard

The library of models that the program runs with. Results on options take any
library; that there is one of the kind they ask for is seen from this one.
-/

namespace FieldRules

/-! ## Settings -/

namespace Settings

/-- A truth value as people write it, in any case. -/
def readTruth? (s : String) : Option Bool :=
  let small := s.toLower
  if truthWords.contains small then some true
  else if falsehoodWords.contains small then some false
  else none

end Settings

/-- The text about complaints: how many there are, and each with its place on two lines. -/
def Complaint.report (model : String) (complaints : List Complaint) : String :=
  let place (c : Complaint) : String := Text.joinWith "." (c.path.map stepText)
  let count := complaints.length
  let header := toString count ++ " validation error" ++ (if count == 1 then "" else "s") ++
    " for " ++ model
  Text.joinWith "\n" (header :: complaints.flatMap fun c => [place c, "  " ++ c.kind.name])
where
  stepText : Complaint.Step → String
    | .name s => s
    | .number n => Number.integerText n

/-- The fault of what does not fit. -/
def Fault.ofComplaints (model : String) (complaints : List Complaint) : Fault :=
  .unfit (Complaint.report model complaints) complaints

/-- The settings of an environment: each variable that is set replaces a default. -/
def Settings.ofEnvironment (env : Environment) : Except Fault Settings :=
  match env logJsonVariable with
  | none => .ok (ofVariables env false)
  | some s =>
    match readTruth? s with
    | some b => .ok (ofVariables env b)
    | none => .error (.ofComplaints "Settings" [⟨[.name "LOG_JSON"], .notTruth⟩])

/-! ## Options -/

namespace Options

/-- The complaint about an option that has to be a text. -/
def TextOption.complaint? (s : Sections) (x : TextOption) : Option Complaint :=
  match x.found? s with
  | none => none
  | some (.text _) => none
  | some _ => some ⟨[.name x.part.name, .name x.capitalName], .notText⟩

/-- A whole number as a key is a step of its own while it fits into sixty-four bits. -/
def stepLimit : Int := 9223372036854775808

/-- A key as a step of a path. -/
def keyStep : Value → Complaint.Step
  | .text s => .name s
  | .bool b => .number (if b then 1 else 0)
  | .int n => if -stepLimit ≤ n && n < stepLimit then .number n else .name (Number.integerText n)
  | v => .name v.literal

/-- The complaint about a key of attributes that is no text. -/
def keyComplaint? (p : Part) (key : Value) : Option Complaint :=
  match key with
  | .text _ => none
  | k => some ⟨[.name p.name, .name "attrs", keyStep k, .name "[key]"], .notText⟩

/-- The complaints about attributes, which have to be a mapping with texts as keys. -/
def attrsComplaints (s : Sections) (p : Part) : List Complaint :=
  match (s.part p).get? "attrs" with
  | none => []
  | some (.dict entries) => entries.filterMap fun e => keyComplaint? p e.1
  | some _ => [⟨[.name p.name, .name "attrs"], .notMapping⟩]

/-- All complaints, in the order of the sections and of the options in them. -/
def Sections.complaints (s : Sections) : List Complaint :=
  let texts (xs : List TextOption) : List Complaint := xs.filterMap (TextOption.complaint? s)
  texts [.formId, .action, .method, .formClass] ++ attrsComplaints s .form ++
  texts [.submitText, .submitClass] ++ attrsComplaints s .submit ++
  texts [.fieldGroup, .label, .input, .error, .hint]

/-- Some option that has a setting is not given. -/
def Sections.needsSettings (s : Sections) : Bool :=
  TextOption.all.any fun x => x.hasSetting && (x.found? s).isNone

/-- The text of an option, or else its setting, or nothing. -/
def TextOption.fill (s : Sections) (settings : Settings) (x : TextOption) : String :=
  match x.found? s with
  | some (.text t) => t
  | _ => (x.setting? settings).getD ""

/-- The options that sections without complaints stand for. -/
def Sections.fill (s : Sections) (settings : Settings) : RenderOptions where
  form :=
    { id := TextOption.formId.fill s settings
      action := TextOption.action.fill s settings
      method := TextOption.method.fill s settings
      className := TextOption.formClass.fill s settings
      attrs := s.attrs .form }
  submit :=
    { text := TextOption.submitText.fill s settings
      className := TextOption.submitClass.fill s settings
      attrs := s.attrs .submit }
  classes :=
    { fieldGroup := TextOption.fieldGroup.fill s settings
      label := TextOption.label.fill s settings
      input := TextOption.input.fill s settings
      error := TextOption.error.fill s settings
      hint := TextOption.hint.fill s settings }

/-- The options that sections stand for. Settings that are needed and cannot be read come before
all complaints. -/
def Sections.construct (settings : Except Fault Settings) (s : Sections) :
    Except Fault RenderOptions :=
  let complete (settings : Settings) : Except Fault RenderOptions :=
    if s.complaints.isEmpty then .ok (s.fill settings)
    else .error (.ofComplaints "RenderOptions" s.complaints)
  match settings with
  | .ok settings => complete settings
  | .error e => if s.needsSettings then .error e else complete {}

/-- The spelling with capitals of a key, which has to be a text. -/
def camelOf : Value → Except Fault String
  | .text s => .ok (camelKey s)
  | _ => .error .keyNotText

end Options

/-- The library that the program runs with. -/
def Library.standard : Library where
  camel := Options.camelOf
  settings := Settings.ofEnvironment
  options := Options.Sections.construct

/-- The library in an environment in which no variable is set. -/
def Deployment.standard : Deployment := ⟨.standard, fun _ => none⟩

end FieldRules
