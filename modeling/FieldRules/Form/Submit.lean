import FieldRules.Form.Basic

/-!
# Form — Submit

One attempt to submit a form: the values are read, validated, and sent only if
they are valid. Errors, found here or answered by the receiver, are shown on
the surface, which is cleared first.
-/

namespace FieldRules

/-! ## Surface -/

/-- What the page shows: a message for each field with an error, and the class that marks its
control. -/
structure Surface where
  messages : Named String := []
  marked : Named Value := []
  cleared : Nat := 0

namespace Surface

/-- Nothing is shown any more. -/
def clear (s : Surface) : Surface :=
  { messages := [], marked := [], cleared := s.cleared + 1 }

def showError (s : Surface) (name message : String) : Surface :=
  { s with messages := Named.put name message s.messages }

def markInvalid (s : Surface) (name : String) (cssClass : Value) : Surface :=
  { s with marked := Named.put name cssClass s.marked }

/-- Shows the error of a field under a text, and marks the field. -/
def paintError (cssClass : Value) (s : Surface) (name text : String) : Surface :=
  (s.showError name text).markInvalid name cssClass

/-- Shows the errors of fields one by one, and marks the fields. A message that cannot be written
ends the painting where it stands. -/
def paint (cssClass : Value) : Surface → Named Value → Surface × Except Fault Unit
  | s, [] => (s, .ok ())
  | s, (name, message) :: rest =>
    match liftExcess message.display? with
    | .ok text => paint cssClass (s.paintError cssClass name text) rest
    | .error e => (s, .error e)

end Surface

/-! ## Delivery -/

/-- Values on their way to the action of a form. -/
structure Request where
  action : String
  method : String
  payload : Value

/-- What the receiver answers. -/
structure Response where
  ok : Value
  body : Value
  status : Value

/-- What comes of a request: an answer, or the name of what went wrong. -/
inductive Delivery where
  | answered (r : Response)
  | raised (exception : String)

/-! ## Outcomes -/

inductive SubmitStatus where
  /-- The values are not valid, and nothing was sent. -/
  | invalid
  /-- The receiver took the values. -/
  | submitted
  /-- The receiver refused the values. -/
  | rejected
  /-- The values could not be delivered. -/
  | failed
deriving DecidableEq, Repr

def SubmitStatus.name : SubmitStatus → String
  | .invalid => "invalid"
  | .submitted => "submitted"
  | .rejected => "rejected"
  | .failed => "failed"

structure SubmitOutcome where
  status : SubmitStatus
  errors : Named Value := []
  response : Option Response := none
  exception : Option String := none

/-- One attempt: what the surface shows afterwards, what was sent, and the outcome. -/
structure Attempt where
  surface : Surface
  sent : List Request
  result : Traced SubmitOutcome

/-- Where and how a form is sent. -/
structure Coordinator where
  action : String
  method : String

namespace Coordinator

/-- A text that is given and not empty, and otherwise that of a setting. -/
def orSetting (deployment : Deployment) (given : Option String) (setting : Settings → String) :
    Except Fault String :=
  match given with
  | some s => if s.isEmpty then setting <$> deployment.settings else .ok s
  | none => setting <$> deployment.settings

/-- A coordinator; what is not given comes from the settings. -/
def make (deployment : Deployment) (action method : Option String) : Except Fault Coordinator := do
  return ⟨← orSetting deployment action Settings.formAction,
    ← orSetting deployment method Settings.formMethod⟩

def submissionFailed (c : Coordinator) : Event where
  name := "submission_failed"
  severity := .error
  channel := .render
  values := [("action", .text c.action), ("method", .text c.method)]

/-- The errors found so far with one more, its key and its value in their written form. -/
def putErrorText (found : Named Value) (e : Value × Value) : Except Fault (Named Value) := do
  let name ← liftExcess e.1.display?
  let text ← liftExcess e.2.display?
  return Named.put name (.text text) found

/-- Errors as texts by field. -/
def errorTexts (errors : Dict) : Except Fault (Named Value) :=
  errors.foldlM putErrorText []

/-- The errors that a receiver's answer brings, as texts by field. The body has to be a
mapping. -/
def serverErrors (body : Value) : Except Fault (Named Value) :=
  match body with
  | .dict d =>
    match Dict.get? d "errors" with
    | some (.dict errors) => errorTexts errors
    | _ => .ok []
  | _ => .error .notMapping

/-- The attempt that paints the errors of an outcome and then ends with it. -/
def painted (form : Form) (surface : Surface) (sent : List Request) (entries : List Entry)
    (outcome : SubmitOutcome) : Attempt :=
  let (shown, result) := surface.paint form.inputErrorClass outcome.errors
  ⟨shown, sent, ⟨entries, result.map fun _ => outcome⟩⟩

/-- The attempt after the values have been delivered. -/
def afterDelivery (c : Coordinator) (form : Form) (surface : Surface) (request : Request)
    (before : List Entry) : Delivery → Attempt
  | .raised exception =>
    ⟨surface, [request],
      ⟨before ++ [.event c.submissionFailed],
       .ok { status := .failed, exception := some exception }⟩⟩
  | .answered response =>
    if response.ok.truthy then
      ⟨surface, [request], ⟨before, .ok { status := .submitted, response := some response }⟩⟩
    else match serverErrors response.body with
      | .error e => ⟨surface, [request], ⟨before, .error e⟩⟩
      | .ok errors =>
        painted form surface [request] before
          { status := .rejected, errors, response := some response }

/-- Attempts to submit values. -/
def handleSubmit (c : Coordinator) (validators : Validators) (form : Form) (surface : Surface)
    (values : Value) (deliver : Request → Delivery) : Attempt :=
  let cleared := surface.clear
  let validation := form.validate validators values
  match validation.outcome with
  | .error e => ⟨cleared, [], ⟨validation.entries, .error e⟩⟩
  | .ok v =>
    if v.isValid then
      let request : Request := ⟨c.action, c.method, values⟩
      c.afterDelivery form cleared request validation.entries (deliver request)
    else
      painted form cleared [] validation.entries { status := .invalid, errors := v.errors }

end Coordinator
end FieldRules
