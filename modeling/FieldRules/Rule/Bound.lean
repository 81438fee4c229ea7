import FieldRules.Fault

/-!
# Rule — Bound

Bounds from values. A length is an integer, and of any other value the
integer at the front of its text; a limit is a finite number. What is no
bound is dropped; what is too long or too large to be read is a fault.
-/

namespace FieldRules

open Number (Numeric)

/-- A number that is too large or too long to be read or written ends the operation. -/
def liftExcess {α : Type} : Except Number.Excess α → Except Fault α
  | .ok a => .ok a
  | .error e => .error (.excess e)

namespace Value

/-- The length bound that a value is. -/
def length? : Value → Except Fault (Option Int)
  | .null => .ok none
  | .bool _ => .ok none
  | .int n => .ok (some n)
  | .float x => .ok x.truncate?
  | v => liftExcess do Number.leadingInteger? (← v.display?).toList

/-- The limit that a value is, an integer when it has no fraction. -/
def limit? : Value → Except Fault (Option Numeric)
  | .null => .ok none
  | .bool _ => .ok none
  | .int n => .ok (some (.int n))
  | .float x => .ok x.toNumeric?
  | v => liftExcess do Number.parseNumeric? (← v.display?).toList

/-- The bound that an optional value is. -/
def optionalBound {α : Type} (read : Value → Except Fault (Option α)) :
    Option Value → Except Fault (Option α)
  | none => .ok none
  | some v => read v

end Value
end FieldRules
