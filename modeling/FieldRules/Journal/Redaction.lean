import FieldRules.Text.Letter
import FieldRules.Value.Dict
import FieldRules.Value.Text

/-!
# Journal — Redaction

Events without their secrets. What stands under a sensitive key, at any of
the outer levels of an event, is replaced; keys are compared without regard to
case.
-/

namespace FieldRules.Redaction

/-- Keys under which secrets are kept. -/
def sensitiveKeys : List String :=
  ["password", "password_confirmation", "token", "secret", "authorization", "cookie"]

/-- The key names a secret. -/
def isSensitive (key : Value) : Bool :=
  sensitiveKeys.contains (Text.lowerString key.display)

/-- Shown in place of a secret. -/
def redacted : Value := .text "[REDACTED]"

mutual

/-- The value without its secrets, down to a number of levels; below them nothing is changed. -/
def redact : Nat → Value → Value
  | 0, v => v
  | levels + 1, .dict entries => .dict (redactEntries levels entries)
  | levels + 1, .list items => .list (redactItems levels items)
  | _ + 1, v => v

def redactEntries : Nat → List (Value × Value) → List (Value × Value)
  | _, [] => []
  | levels, (k, v) :: rest =>
    (k, if isSensitive k then redacted else redact levels v) :: redactEntries levels rest

def redactItems : Nat → List Value → List Value
  | _, [] => []
  | levels, v :: rest => redact levels v :: redactItems levels rest

end

/-- How many levels of an event are looked at. -/
def depth : Nat := 6

/-- The event without its secrets. -/
def redactEvent (event : Value) : Value := redact depth event

/-- The event with the name of the service, unless it has one. -/
def addService (event : Dict) : Dict :=
  if event.has "service" then event else event ++ [(.text "service", .text "unival")]

end FieldRules.Redaction
