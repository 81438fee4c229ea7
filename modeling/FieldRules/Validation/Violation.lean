import FieldRules.Check.Basic
import FieldRules.Rule.Normalize

/-!
# Validation — Violation

The one failure that is reported for a field, and the built-in checks of a
rule: presence, then for a value that is not blank the format, the length,
the limits and the pattern, in this order up to the first that fails.
-/

namespace FieldRules

/-- The failure of a field. -/
structure Violation where
  field : String
  constraint : String
  message : Value
  code : ErrorCode

/-- The message where a failure brings none of its own. -/
def defaultMessage : String := "Invalid value"

/-- The report of a failed check. A message that does not count as given is replaced. -/
def Violation.ofFailure (field : String) (f : Failure) : Violation where
  field := field
  constraint := if f.constraint.isEmpty then "invalid" else f.constraint
  message := if f.message.truthy then f.message else .text defaultMessage
  code := f.code

namespace Rule

/-- The messages that the rule brings for single checks. -/
def messages (r : Rule) : Dict :=
  ((Dict.getD r.extras "messages").dict?).getD []

/-- A check under its key, with the message that the rule brings for it. -/
def withOwnMessage (r : Rule) (key : String) (c : Check) : Check :=
  match Dict.get? r.messages key with
  | some message => .withMessage c message
  | none => c

/-- The format check: one at most. -/
def formatChecks (r : Rule) : List Check :=
  if r.email then [r.withOwnMessage "email" .email]
  else if r.url then [r.withOwnMessage "url" .url]
  else if r.number then [r.withOwnMessage "number" .number]
  else []

/-- A check for a bound that is set. -/
def boundCheck {α : Type} (r : Rule) (key : String) (bound : Option α) (check : α → Check) :
    List Check :=
  match bound with
  | some b => [r.withOwnMessage key (check b)]
  | none => []

/-- The checks of a value that is not blank, in their order. -/
def checks (r : Rule) (pattern : Option Pattern) : List Check :=
  r.formatChecks ++
  r.boundCheck "min" r.min (fun n => .length (some n) none) ++
  r.boundCheck "max" r.max (fun n => .length none (some n)) ++
  r.boundCheck "min_value" r.minValue (fun n => .range (some n) none) ++
  r.boundCheck "max_value" r.maxValue (fun n => .range none (some n)) ++
  r.boundCheck "pattern" pattern .pattern

/-- The checks of a value that is not blank, as one. The pattern is compiled here unless it comes
compiled. -/
def validator (r : Rule) (pattern : Option Pattern) : Except Fault Check :=
  match pattern with
  | some p => .ok (.allOf (r.checks (some p)))
  | none => do return .allOf (r.checks (← r.compiledPattern .null))

/-- The violation of the presence that a rule may require. -/
def requiredViolation (r : Rule) (field : String) (v : Value) :
    Except Fault (Option Violation) := do
  if r.required then
    match ← (r.withOwnMessage "required" .required).run v with
    | some failure => return some (.ofFailure field failure)
    | none => return none
  else return none

/-- The violation of the built-in checks by a value. A blank value is not looked at any
further than its presence. -/
def checkValue (r : Rule) (field : String) (pattern : Option Pattern) (v : Value) :
    Except Fault (Option Violation) := do
  match ← r.requiredViolation field v with
  | some violation => return some violation
  | none =>
    if ← liftExcess v.isEmpty? then return none
    else
      let check ← r.validator pattern
      match ← check.run v with
      | some failure => return some (.ofFailure field failure)
      | none => return none

end Rule
end FieldRules
