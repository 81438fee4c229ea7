import FieldRules.Address.Email
import FieldRules.Address.Url
import FieldRules.Rule.Bound

/-!
# Check — Basic

Single checks on a value. Every check looks at the text of the value. A check
that fails says why, and which constraint was broken.
-/

namespace FieldRules

open Number (Numeric)

/-- A condition on one value. -/
inductive Check where
  | required
  | email
  | url
  | number
  | length (min max : Option Int)
  | range (min max : Option Numeric)
  | pattern (p : Pattern)
  /-- All of them hold; the first that fails is reported. -/
  | allOf (checks : List Check)
  /-- The same condition, reported with another message. -/
  | withMessage (check : Check) (message : Value)

/-- Why a check failed. -/
structure Failure where
  message : Value
  code : ErrorCode
  constraint : String
  expected : String
  actual : Value

namespace Check

/-! ## Names -/

mutual

/-- The name of a check, as it stands in reports. -/
def name : Check → String
  | .required => "required"
  | .email => "email"
  | .url => "url"
  | .number => "number"
  | .length (some min) (some max) =>
    "length[" ++ Number.integerText min ++ "," ++ Number.integerText max ++ "]"
  | .length (some min) none => "min_length[" ++ Number.integerText min ++ "]"
  | .length none (some max) => "max_length[" ++ Number.integerText max ++ "]"
  | .length none none => "string_length"
  | .range (some min) (some max) => "range[>=" ++ min.text ++ ", <=" ++ max.text ++ "]"
  | .range (some min) none => "range[>=" ++ min.text ++ "]"
  | .range none (some max) => "range[<=" ++ max.text ++ "]"
  | .range none none => "numeric"
  | .pattern p => "pattern[" ++ p.source ++ "]"
  | .allOf checks => "all_of[" ++ Text.joinWith ", " (names checks) ++ "]"
  | .withMessage check _ => name check

def names : List Check → List String
  | [] => []
  | c :: cs => name c :: names cs

end

/-! ## Single checks -/

/-- A text cut after fifty characters, with dots where something is missing. -/
def excerpt (s : String) : String :=
  let cs := s.toList
  if 50 < cs.length then String.ofList (cs.take 50) ++ "..." else s

def failed (message : String) (code : ErrorCode) (constraint expected : String) (actual : Value) :
    Option Failure :=
  some { message := .text message, code, constraint, expected, actual }

/-- The value is there and not blank. -/
def runRequired (v : Value) : Except Fault (Option Failure) := do
  if ← liftExcess v.isEmpty? then
    return failed "This field is required" .requiredFieldMissing "required" "non-empty value" v
  else return none

/-- A check on the text of a value, which has to be one that can be written. -/
def onText (test : String → Except Fault (Option Failure)) (v : Value) :
    Except Fault (Option Failure) := do
  test (← liftExcess v.asText?)

def emailFailure (text : String) : Option Failure :=
  if Address.Email.accepts text.toList then none
  else failed "Invalid email address" .invalidEmail "email" "local@domain.tld" (.text text)

def urlFailure (text : String) : Option Failure :=
  if Address.Url.accepts text.toList then none
  else failed "Invalid URL" .invalidUrl "url" "absolute URL with scheme" (.text (excerpt text))

/-- The number that a text denotes. -/
def numberOf (text : String) : Except Fault (Option Number.Double) :=
  liftExcess (Number.parse? text.toList)

def numberFailure (text : String) : Except Fault (Option Failure) := do
  match ← numberOf text with
  | some _ => return none
  | none => return failed "Must be a number" .invalidNumber "number" "finite number" (.text text)

/-- The failure of a bound, if there is one and it is broken. The report writes the bound out. -/
def boundFailure {α : Type} (write : α → Except Number.Excess String) (bound : Option α)
    (broken : α → Bool) (report : String → Option Failure) : Except Fault (Option Failure) :=
  match bound with
  | none => .ok none
  | some b => if broken b then liftExcess ((write b).map report) else .ok none

/-- The failure of the first of two tests that fails. -/
def orElse (first second : Except Fault (Option Failure)) : Except Fault (Option Failure) :=
  match first with
  | .ok none => second
  | other => other

/-- Bounds on the length of the text, in characters. -/
def lengthFailure (min max : Option Int) (text : String) : Except Fault (Option Failure) :=
  let length : Nat := text.toList.length
  let actual : Value := .text (toString length ++ " characters")
  orElse
    (boundFailure Number.integerText? min (fun m => (length : Int) < m) fun m =>
      failed ("Must be at least " ++ m ++ " characters") .outOfRange ("min_length[" ++ m ++ "]")
        (">= " ++ m ++ " characters") actual)
    (boundFailure Number.integerText? max (fun m => m < (length : Int)) fun m =>
      failed ("Must be at most " ++ m ++ " characters") .outOfRange ("max_length[" ++ m ++ "]")
        ("<= " ++ m ++ " characters") actual)

/-- Bounds on a number, the bounds included. -/
def rangeFailure (min max : Option Numeric) (x : Number.Double) :
    Except Fault (Option Failure) :=
  orElse
    (boundFailure Numeric.text? min (fun m => (Numeric.double x).below m) fun m =>
      failed ("Must be at least " ++ m) .outOfRange ("min_value[" ++ m ++ "]") (">= " ++ m)
        (.float x))
    (boundFailure Numeric.text? max (fun m => m.below (.double x)) fun m =>
      failed ("Must be at most " ++ m) .outOfRange ("max_value[" ++ m ++ "]") ("<= " ++ m)
        (.float x))

/-- Bounds on the number that the text denotes; a text that denotes none passes. -/
def textRangeFailure (min max : Option Numeric) (text : String) :
    Except Fault (Option Failure) := do
  match ← numberOf text with
  | none => return none
  | some x => rangeFailure min max x

def patternFailure (p : Pattern) (text : String) : Option Failure :=
  if p.foundIn text then none
  else failed "Invalid format" .invalidFormat ("pattern[" ++ p.source ++ "]")
    ("match pattern '" ++ p.source ++ "'") (.text (excerpt text))

/-! ## All checks -/

mutual

/-- The failure of a check on a value, if it fails. -/
def run : Check → Value → Except Fault (Option Failure)
  | .required, v => runRequired v
  | .email, v => onText (fun text => .ok (emailFailure text)) v
  | .url, v => onText (fun text => .ok (urlFailure text)) v
  | .number, v => onText numberFailure v
  | .length min max, v => onText (lengthFailure min max) v
  | .range min max, v => onText (textRangeFailure min max) v
  | .pattern p, v => onText (fun text => .ok (patternFailure p text)) v
  | .allOf checks, v => runAll checks v
  | .withMessage check message, v =>
    match run check v with
    | .ok (some failure) => .ok (some { failure with message := message })
    | other => other

/-- The failure of the first check that fails. -/
def runAll : List Check → Value → Except Fault (Option Failure)
  | [], _ => .ok none
  | c :: cs, v =>
    match run c v with
    | .ok none => runAll cs v
    | other => other

end

/-! ## Small facts -/

variable {first second : Except Fault (Option Failure)}

theorem orElse_none_left (x : Except Fault (Option Failure)) : orElse (.ok none) x = x := rfl

theorem orElse_none_right (x : Except Fault (Option Failure)) : orElse x (.ok none) = x := by
  cases x with
  | error e => rfl
  | ok f? => cases f? <;> rfl

theorem orElse_of_ne_none (h : first ≠ .ok none) : orElse first second = first := by
  cases first with
  | error e => rfl
  | ok f? =>
      cases f? with
      | none => exact absurd rfl h
      | some f => rfl

theorem orElse_assoc (x y z : Except Fault (Option Failure)) :
    orElse (orElse x y) z = orElse x (orElse y z) := by
  cases x with
  | error e => rfl
  | ok f? => cases f? <;> rfl

theorem orElse_eq_none : orElse first second = .ok none ↔ first = .ok none ∧ second = .ok none := by
  cases first with
  | error e => simp [orElse]
  | ok f? => cases f? <;> simp [orElse]

theorem map_orElse (first second : Except Fault (Option Failure)) (f : Failure → Failure) :
    (orElse first second).map (Option.map f) =
      orElse (first.map (Option.map f)) (second.map (Option.map f)) := by
  cases first with
  | error e => rfl
  | ok f? => cases f? <;> rfl

/-- Checks are run one after the other. -/
theorem runAll_cons (c : Check) (cs : List Check) (v : Value) :
    runAll (c :: cs) v = orElse (c.run v) (runAll cs v) := by
  rw [runAll]
  cases c.run v with
  | error e => rfl
  | ok f? => cases f? <;> rfl

/-- A check that is reported with a message fails as it does without, the message apart. -/
theorem run_withMessage (c : Check) (message v : Value) :
    (withMessage c message).run v = (c.run v).map (Option.map ({ · with message := message })) := by
  rw [run]
  cases c.run v with
  | error e => rfl
  | ok f? => cases f? <;> rfl

end Check
end FieldRules
