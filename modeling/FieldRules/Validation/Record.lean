import FieldRules.Validation.Violation

/-!
# Validation — Record

Validating a record against rules by field. All rules are prepared before any
field is looked at, so a rule that cannot be evaluated ends the validation
before anything else happens. Then every field runs on its own: its built-in
checks at once, and a custom validator, where they hold, after as many
suspensions as it makes. Custom validators are asked in the order of the rules;
fields settle round by round, and within a round in the same order.
-/

namespace FieldRules

/-! ## Custom validators -/

/-- What a custom validator says. -/
inductive Verdict where
  /-- It failed to say anything. -/
  | raised
  /-- A text is a message, `false` a refusal, and anything else consent. -/
  | returned (v : Value)

/-- A custom validator: how often it is suspended before it decides, and what it decides on a value
and the whole record. -/
structure Validator where
  suspensions : Nat
  verdict : Value → Dict → Verdict

/-- What the custom functions do, by their handles. -/
abbrev Validators := Handle → Validator

/-- The violation that a verdict means. -/
def Verdict.violation? (r : Rule) (field : String) : Verdict → Option Violation
  | .returned (.text s) => some ⟨field, "custom", .text s, .customRuleFailed⟩
  | .returned (.bool false) => some ⟨field, "custom", message, .customRuleFailed⟩
  | .returned _ => none
  | .raised => some ⟨field, "custom", message, .customRuleFailed⟩
where
  message : Value := (Dict.get? r.messages "custom").getD (.text defaultMessage)

/-! ## Preparation -/

/-- A field's rule, ready to run. The field is what is found under a key, which is a text as a
rule. -/
structure Prepared where
  key : Value
  rule : Rule
  pattern : Option Pattern

/-- The name of the field. -/
def Prepared.field (p : Prepared) : String := p.key.display

/-- Rules by the keys of their fields. -/
abbrev Rules := Dict

def Rules.names (rules : Rules) : List String := rules.map fun e => e.1.display

/-- A record as a mapping; what does not count as given is the empty one. -/
def Value.record (data : Value) : Except Fault Dict :=
  if data.truthy then
    match data with
    | .dict d => .ok d
    | _ => .error .notMapping
  else .ok []

/-- Rules are a mapping as a record is. -/
def Value.entries (v : Value) : Except Fault Rules := v.record

/-- The rule of one field, with its pattern compiled. -/
def Prepared.make (key raw : Value) : Traced Prepared := do
  let rule ← Rule.normalize raw
  let pattern ← Traced.ofExcept (rule.compiledPattern key)
  return ⟨key, rule, pattern⟩

/-- All rules, in their order. -/
def Prepared.all : Rules → Traced (List Prepared)
  | [] => pure []
  | (key, raw) :: rest => do
    let first ← Prepared.make key raw
    let others ← Prepared.all rest
    return first :: others

/-! ## Fields -/

/-- Where a field stands once its built-in checks have run. -/
inductive Stage where
  /-- The field is done. -/
  | settled (violation : Option Violation)
  /-- A custom validator has to decide on a value. -/
  | asking (f : Handle) (value : Value)

/-- Runs the built-in checks of a field. A custom validator is asked only where they hold and the
value is not blank. -/
def Prepared.start (p : Prepared) (data : Value) : Except Fault Stage := do
  let record ← data.record
  let value := record.find p.key
  match ← p.rule.checkValue p.field p.pattern value with
  | some violation => return .settled (some violation)
  | none =>
    match p.rule.validate with
    | some f => return if value.isEmpty then .settled none else .asking f value
    | none => return .settled none

/-- A field on its way: its rule and where it stands. -/
structure Running where
  prepared : Prepared
  stage : Stage

namespace Running

/-- The round in which the field settles. -/
def round (validators : Validators) (r : Running) : Nat :=
  match r.stage with
  | .settled _ => 0
  | .asking f _ => (validators f).suspensions

def validatorFailed (field : String) : Event where
  name := "custom_validator_failed"
  severity := .error
  channel := .validation
  values := [("field", .text field)]

/-- The call with which the field asks its custom validator. -/
def call? (record : Dict) (r : Running) : Option Call :=
  match r.stage with
  | .settled _ => none
  | .asking f value => some ⟨r.prepared.field, f, value, record⟩

/-- The event for a custom validator that fails to decide. -/
def failure? (validators : Validators) (record : Dict) (r : Running) : Option Event :=
  match r.stage with
  | .settled _ => none
  | .asking f value =>
    match (validators f).verdict value record with
    | .raised => some (validatorFailed r.prepared.field)
    | .returned _ => none

/-- The trace of starting: the call, and what comes of it if it is never suspended. -/
def started (validators : Validators) (record : Dict) (r : Running) : List Entry :=
  (r.call? record).toList.map .call ++
    if r.round validators = 0 then (r.failure? validators record).toList.map .event else []

/-- The trace of settling in a later round. -/
def resumed (validators : Validators) (record : Dict) (r : Running) : List Entry :=
  if r.round validators = 0 then [] else (r.failure? validators record).toList.map .event

/-- The violation with which the field settles. -/
def violation? (validators : Validators) (record : Dict) (r : Running) : Option Violation :=
  match r.stage with
  | .settled violation => violation
  | .asking f value =>
    ((validators f).verdict value record).violation? r.prepared.rule r.prepared.field

end Running

/-! ## Whole records -/

/-- The outcome for a record: the violations, in the order in which the fields settled. -/
structure Validation where
  details : List Violation

namespace Validation

def isValid (v : Validation) : Bool := v.details.isEmpty

/-- The message for each field that failed. -/
def errors (v : Validation) : Named Value :=
  v.details.map fun d => (d.field, d.message)

def completed (fields errors : Nat) : Event where
  name := "validation_completed"
  severity := .debug
  channel := .validation
  values := [("fields", .int fields), ("errors", .int errors)]

/-- The fields that could start, and the first fault among those that could not. -/
def startAll (data : Value) : List Prepared → List Running × Option Fault
  | [] => ([], none)
  | p :: rest =>
    let (running, fault) := startAll data rest
    match p.start data with
    | .ok stage => (⟨p, stage⟩ :: running, fault)
    | .error e => (running, some e)

/-- The fields in the order in which they settle. -/
def settlingOrder (validators : Validators) (running : List Running) : List Running :=
  running.mergeSort fun a b => a.round validators ≤ b.round validators

/-- Lets all prepared fields run. All of them start, also where one of them ends in a fault. -/
def run (validators : Validators) (data : Value) (prepared : List Prepared) :
    Traced Validation :=
  let record := (data.record.toOption).getD []
  let (running, fault) := startAll data prepared
  let asked := running.flatMap (·.started validators record)
  -- a fault does not call back what has been asked
  match fault with
  | some e => ⟨asked, .error e⟩
  | none =>
    let settled := settlingOrder validators running
    let details := settled.filterMap (·.violation? validators record)
    ⟨asked ++ settled.flatMap (·.resumed validators record) ++
      [.event (completed prepared.length details.length)], .ok ⟨details⟩⟩

end Validation

/-- Validates a record against rules by field. -/
def validate (validators : Validators) (data rules : Value) : Traced Validation := do
  let entries ← Traced.ofExcept rules.entries
  let prepared ← Prepared.all entries
  Validation.run validators data prepared

end FieldRules
