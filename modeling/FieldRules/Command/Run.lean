import FieldRules.Command.Host
import FieldRules.Form.Basic

/-!
# Command — Run

The two commands: rendering a form from a document, and validating a record
against rules. What cannot be read or used is reported in one line, with the
exit code for wrong usage.
-/

namespace FieldRules.Command

/-- What a command leaves behind. -/
structure Output where
  exitCode : Nat
  stdout : String
  stderr : List String

/-- Documents bring no custom functions. -/
def noValidators : Validators := fun _ => ⟨0, fun _ _ => .returned .null⟩

/-- Documents bring no custom functions. -/
def noRenderers : Markup.Renderers := fun _ _ _ => .ok .null

/-- The configuration of a document, and its options: it is a list, or a mapping with both. -/
def splitConfig (document : Value) : Value × Value :=
  match document with
  | .dict d =>
    match Dict.get? d "fields" with
    | some fields =>
      let options := Dict.getD d "options"
      (fields, if options.truthy then options else .dict [])
    | none => (document, .dict [])
  | v => (v, .dict [])

/-- Options with those of another document laid over them; both have to be mappings. -/
def overlay (options : Value) (other : Except Fault Value) : Except Fault Value :=
  match options with
  | .dict base => do
    let v ← other
    if v.truthy then
      match v with
      | .dict d => return .dict (Dict.union base d)
      | _ => .error .keyNotText
    else return .dict base
  | _ => .error .keyNotText

/-- The markup for a document. -/
def render (host : Host) (config : String) (optionsPath : Option String) (basic : Bool) :
    Traced Value := do
  let document ← Traced.ofExcept (Document.load host.documents config)
  let (fields, own) := splitConfig document
  let options ←
    match optionsPath with
    | some path =>
      if path.isEmpty then pure own
      else Traced.ofExcept (overlay own (Document.load host.documents path))
    | none => pure own
  let resolved := Options.resolve host.deployment options
  if basic then
    let (schema, o) ← Builder.build fields resolved
    return .text (← Markup.Plain.renderForm schema.toFields o)
  else Builder.generate fields (some (Adapter.markup { renderers := noRenderers })) resolved

/-- A document that has to be a mapping; what does not count as given is an empty one. -/
def mappingOf (v : Value) : Option Value :=
  if v.truthy then
    match v with
    | .dict _ => some v
    | _ => none
  else some (.dict [])

/-- The outcome of validating one document by another; `none` when they are not mappings. -/
def validateDocuments (store : Document.Store) (rules data : String) :
    Traced (Option Validation) := do
  let ruleDocument ← Traced.ofExcept (Document.load store rules)
  let dataDocument ← Traced.ofExcept (Document.load store data)
  match mappingOf ruleDocument, mappingOf dataDocument with
  | some r, some d => return some (← validate noValidators d r)
  | _, _ => return none

/-- An outcome as it is printed. -/
def outcomeDocument (v : Validation) : String :=
  Json.document .pretty (.dict (Dict.ofNames
    [("isValid", .bool v.isValid), ("errors", .dict (Dict.ofNames v.errors))]))

/-- Leaves a text behind on a line of its own, if it can be printed. -/
def Host.print (host : Host) (exitCode : Nat) (text : String) : Except Fault Output :=
  match host.refuses text with
  | none => .ok ⟨exitCode, text ++ "\n", []⟩
  | some reason => .error (.refusal reason)

/-- What a command prints, once its task is done. -/
def taskOutput (host : Host) : Task → Traced Output
  | .render config options basic => do
    let markup ← render host config options basic
    Traced.ofExcept (host.print 0 markup.display)
  | .validate rules data => do
    match ← validateDocuments host.documents rules data with
    | none => return ⟨2, "", ["error: rules and data must both be mappings"]⟩
    | some v => Traced.ofExcept (host.print (if v.isValid then 0 else 1) (outcomeDocument v))

def Task.name : Task → String
  | .render .. => "render"
  | .validate .. => "validate"

def commandFailed (e : UsageError) : Event where
  name := "command_failed"
  severity := .debug
  channel := .command
  values := [("error_id", .text e.code.name)]

/-- The fault as a command reports it, in lines for the log and a line of its own; faults without
words are not reported. -/
def report (json : Bool) : Fault → Option (List Event × String)
  | .usage e => some ([commandFailed e], usageLine e)
  | .ruleConfiguration e => some ([commandFailed e], usageLine e)
  | .unreadableDocument message => some ([], "error: " ++ message)
  | .refusal message => some ([], "error: " ++ message)
  | .excess (.digits count) => some ([], "error: " ++ (Number.Excess.digits count).message)
  | .excess .writing => some ([], "error: " ++ Number.Excess.writing.message)
  | _ => none
where
  usageLine (e : UsageError) : String :=
    if json then Json.document .line (errorFields e) else "error: " ++ e.text

/-- The settings of an environment, with what the command line says about the log. -/
def Invocation.adjust (i : Invocation) (settings : Settings) : Settings :=
  { settings with
    logJson := i.jsonLogs || settings.logJson
    logLevel :=
      match i.logLevel with
      | some s => if s.isEmpty then settings.logLevel else s
      | none => settings.logLevel }

/-- A command that has done its task: what it leaves behind, after the lines of its log. A fault
that no line reports is the outcome itself. -/
def conclude (json : Bool) (logged : List Event → List String) (done : Traced Output) :
    Except Fault Output :=
  match done.outcome with
  | .ok output => .ok { output with stderr := logged done.events ++ output.stderr }
  | .error fault =>
    match report json fault with
    | some (events, line) => .ok ⟨2, "", logged (done.events ++ events) ++ [line]⟩
    | none => .error fault

/-- Does a task, from a log level on, unless it is too deep for the host. -/
def carryOut (host : Host) (json : Bool) (threshold : Nat) (context : Context) (task : Task) :
    Except Fault Output :=
  if host.exhausts task then .error .tooDeep
  else conclude json (host.logged json threshold context task) (taskOutput host task)

/-- Carries out a command in a context of the log, which also gives the context afterwards. The
command names itself in the context, which is cleared whatever the outcome is; without settings, or
without a level for the log, the command does not get so far. -/
def runIn (host : Host) (i : Invocation) (context : Context) : Except Fault Output × Context :=
  match host.deployment.settings with
  | .error fault => (.error fault, context)
  | .ok settings =>
    -- up to here nothing is bound, so a fault leaves the context as it is
    let adjusted := i.adjust settings
    match threshold? adjusted.logLevel with
    | none => (.error (.noLevel adjusted.logLevel), context)
    | some threshold =>
      let bound : Context := Named.put "command" (.text i.task.name) context
      (carryOut host adjusted.logJson threshold bound i.task, [])

/-- Carries out a command with nothing in the context of the log. -/
def run (host : Host) (i : Invocation) : Except Fault Output :=
  (runIn host i []).1

end FieldRules.Command
