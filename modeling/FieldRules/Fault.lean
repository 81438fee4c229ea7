import FieldRules.Named
import FieldRules.Value.Text

/-!
# Fault

What can go wrong other than a field being invalid. Misuse of the library is
a `UsageError` with a code, a message and details; the other faults are
conditions on values that nothing reports in words.
-/

namespace FieldRules

/-! ## Codes -/

/-- The taxonomy of failures: those of fields and those of usage. -/
inductive ErrorCode where
  | validationGeneric
  | requiredFieldMissing
  | invalidFormat
  | outOfRange
  | invalidEmail
  | invalidUrl
  | invalidNumber
  | customRuleFailed
  | usageGeneric
  | invalidArgument
  | missingAdapter
  | invalidPattern
deriving DecidableEq, Repr

namespace ErrorCode

def all : List ErrorCode :=
  [.validationGeneric, .requiredFieldMissing, .invalidFormat, .outOfRange, .invalidEmail,
   .invalidUrl, .invalidNumber, .customRuleFailed, .usageGeneric, .invalidArgument,
   .missingAdapter, .invalidPattern]

def number : ErrorCode → Nat
  | .validationGeneric => 2000
  | .requiredFieldMissing => 2001
  | .invalidFormat => 2002
  | .outOfRange => 2003
  | .invalidEmail => 2010
  | .invalidUrl => 2013
  | .invalidNumber => 2014
  | .customRuleFailed => 2030
  | .usageGeneric => 7000
  | .invalidArgument => 7001
  | .missingAdapter => 7002
  | .invalidPattern => 7011

def name : ErrorCode → String
  | .validationGeneric => "E2000_VALIDATION_GENERIC"
  | .requiredFieldMissing => "E2001_REQUIRED_FIELD_MISSING"
  | .invalidFormat => "E2002_INVALID_FORMAT"
  | .outOfRange => "E2003_OUT_OF_RANGE"
  | .invalidEmail => "E2010_INVALID_EMAIL"
  | .invalidUrl => "E2013_INVALID_URL"
  | .invalidNumber => "E2014_INVALID_NUMBER"
  | .customRuleFailed => "E2030_CUSTOM_RULE_FAILED"
  | .usageGeneric => "E7000_USAGE_GENERIC"
  | .invalidArgument => "E7001_INVALID_ARGUMENT"
  | .missingAdapter => "E7002_MISSING_ADAPTER"
  | .invalidPattern => "E7011_INVALID_PATTERN"

/-- Failures of fields are numbered from two thousand, misuse from seven thousand. -/
def category (c : ErrorCode) : String :=
  if 2000 ≤ c.number && c.number < 3000 then "validation" else "usage"

end ErrorCode

/-! ## Complaints -/

/-- What is expected of an option or a setting that is not met. -/
inductive Complaint.Kind where
  | notText
  | notMapping
  | notTruth
deriving DecidableEq, Repr

/-- A step on the way to an option: a name, or a whole number used as a key. -/
inductive Complaint.Step where
  | name (s : String)
  | number (n : Int)
deriving DecidableEq, Repr

/-- An option or setting that does not fit, and where it stands. -/
structure Complaint where
  path : List Complaint.Step
  kind : Complaint.Kind
deriving DecidableEq, Repr

def Complaint.Kind.name : Complaint.Kind → String
  | .notText => "string_type"
  | .notMapping => "dict_type"
  | .notTruth => "bool_parsing"

/-! ## Usage errors -/

/-- Misuse of the library. `complaints` lists the options that do not fit, where these are the
cause. -/
structure UsageError where
  code : ErrorCode
  message : String
  origin : String
  metadata : Named Value
  complaints : List Complaint := []

namespace UsageError

/-- The code and the message. -/
def text (e : UsageError) : String :=
  "[" ++ e.code.name ++ "] " ++ e.message

/-- An error with details, of which those that are `null` are dropped. -/
def make (code : ErrorCode) (message origin : String) (metadata : Named Value) :
    UsageError :=
  { code, message, origin, metadata := metadata.filter fun m => !m.2.isNull }

/-- A configuration that is no list. -/
def invalidConfig (config : Value) (origin : String) : UsageError :=
  make .invalidArgument ("config must be a list of field entries, got " ++ config.typeName)
    origin [("argument", .text "config"), ("received", .text config.typeName)]

/-- A form that is to be rendered by nothing. -/
def missingAdapter (origin : String) : UsageError :=
  make .missingAdapter "an adapter is required to render the form" origin
    [("argument", .text "adapter")]

/-- A pattern that cannot be compiled, for the reason `cause`. -/
def invalidPattern (source cause : String) (field : Value) (origin : String) : UsageError :=
  let place := if field.truthy then " for field '" ++ field.display ++ "'" else ""
  make .invalidPattern
    ("Invalid pattern" ++ place ++ ": " ++ Text.quotedString source ++ " (" ++ cause ++ ")")
    origin [("field", field), ("pattern", .text source)]

/-- Options that cannot be resolved, for the reason `cause`. -/
def invalidOptions (cause : String) (origin : String) : UsageError :=
  make .invalidArgument ("render options could not be resolved: " ++ cause) origin
    [("argument", .text "options")]

/-- Options that cannot be resolved because some of them do not fit, `text` being what is said of
them. -/
def unfitOptions (text : String) (complaints : List Complaint) (origin : String) : UsageError :=
  { invalidOptions text origin with complaints }

end UsageError

/-! ## Faults -/

/-- Why an operation gives no result. -/
inductive Fault where
  /-- A form, its options or its adapter were given wrongly. -/
  | usage (e : UsageError)
  /-- A rule cannot be evaluated. -/
  | ruleConfiguration (e : UsageError)
  /-- A number is larger, or longer, than can be read. -/
  | excess (e : Number.Excess)
  /-- A mapping is needed where another value stands. -/
  | notMapping
  /-- A text is needed where another value stands. -/
  | notText
  /-- What has to be gone through item by item has no items. -/
  | notIterable
  /-- A value that cannot be a key. -/
  | unhashable
  /-- Something other than a key and a value where one of each is needed. -/
  | notPair
  /-- A key of an options section that is no text. -/
  | keyNotText
  /-- Nothing is known under a name. -/
  | missing (name : String)
  /-- Options or settings do not fit: the text that says so, and each complaint in it. -/
  | unfit (text : String) (complaints : List Complaint)
  /-- Controls that render one another without end. -/
  | endlessRendering
  /-- A document cannot be read. -/
  | unreadableDocument (message : String)
  /-- What the program stands on refuses something, in words of its own. -/
  | refusal (message : String)
  /-- What the program stands on breaks off without words that are reported. -/
  | breakdown
  /-- Something is nested too deeply to be gone through. -/
  | tooDeep
  /-- No level of the log has this name, but something else has. -/
  | noLevel (name : String)

/-- Goes on if what is to be written is short enough. -/
def requireWritable (writable : Bool) : Except Fault Unit :=
  if writable then .ok () else .error (.excess .writing)

/-! ## Small facts -/

@[simp] theorem requireWritable_eq_ok {writable : Bool} {u : Unit} :
    requireWritable writable = .ok u ↔ writable = true := by
  cases writable <;> simp [requireWritable]

/-- Two operations give a result when each of them does. -/
theorem bind_eq_ok {ε α β : Type} {x : Except ε α} {f : α → Except ε β} {b : β} :
    x >>= f = .ok b ↔ ∃ a, x = .ok a ∧ f a = .ok b := by
  cases x <;> simp [bind, Except.bind]

/-- An operation that does nothing gives the result it is told. -/
theorem pure_eq_ok {ε α : Type} {a b : α} : (pure a : Except ε α) = .ok b ↔ b = a := by
  simp [pure, Except.pure, eq_comm]

/-- Operations that follow another one only have to agree on its results. -/
theorem bind_congr_ok {ε α β : Type} {x : Except ε α} {f g : α → Except ε β}
    (h : ∀ a, x = .ok a → f a = g a) : x >>= f = x >>= g := by
  cases x with
  | error e => rfl
  | ok a => exact h a rfl

end FieldRules
