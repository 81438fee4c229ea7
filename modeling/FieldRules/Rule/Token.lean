import FieldRules.Rule.Bound
import FieldRules.Rule.Merge
import FieldRules.Journal.Event

/-!
# Rule — Token

Rules as compact text. Tokens are separated by bars or commas; a token is a
name, or a name and an argument after the first colon, and white space
around tokens, names and arguments does not count. A token with an unknown
name is logged and otherwise ignored.
-/

namespace FieldRules.Rule

/-- What one token asks for. -/
inductive Token where
  | required
  /-- Plain text, unless a type is declared already. -/
  | plainText
  | password
  | email
  | url
  | number
  | min (bound : Option Int)
  | max (bound : Option Int)
  | minValue (bound : Option Number.Numeric)
  | maxValue (bound : Option Number.Numeric)
  | pattern (source : String)
  | ignored (token : String)

/-! ## Splitting -/

def isSeparator (c : Char) : Bool := c == '|' || c == ','

/-- The tokens of a text, trimmed, the empty ones left out. -/
def splitTokens (cs : List Char) : List (List Char) :=
  ((Text.splitOn isSeparator cs).map Text.trim).filter (!·.isEmpty)

/-- The name and the argument of a token. -/
def splitToken (cs : List Char) : List Char × List Char :=
  let (name, rest) := cs.span (· != ':')
  (Text.trim name, Text.trim (rest.drop 1))

/-! ## Reading -/

/-- What a token asks for. -/
def Token.read (cs : List Char) : Except Fault Token := do
  let (name, argument) := splitToken cs
  match String.ofList name with
  | "required" => return .required
  | "string" => return .plainText
  | "email" => return .email
  | "password" => return .password
  | "number" => return .number
  | "numeric" => return .number
  | "url" => return .url
  | "min" => return .min (← liftExcess (Number.leadingInteger? argument))
  | "max" => return .max (← liftExcess (Number.leadingInteger? argument))
  | "minValue" => return .minValue (← liftExcess (Number.parseNumeric? argument))
  | "min_value" => return .minValue (← liftExcess (Number.parseNumeric? argument))
  | "maxValue" => return .maxValue (← liftExcess (Number.parseNumeric? argument))
  | "max_value" => return .maxValue (← liftExcess (Number.parseNumeric? argument))
  | "pattern" => return .pattern (String.ofList argument)
  | _ => return .ignored (String.ofList cs)

/-- The rule with what a token asks for. Later tokens replace what earlier ones set. -/
def apply (r : Rule) : Token → Rule
  | .required => { r with required := true }
  | .plainText => { r with type := some (r.type.getD "text") }
  | .password => { r with type := some "password" }
  | .email => { r with type := some "email", email := true }
  | .url => { r with type := some "url", url := true }
  | .number => { r with type := some "number", number := true }
  | .min bound => { r with min := bound }
  | .max bound => { r with max := bound }
  | .minValue bound => { r with minValue := bound }
  | .maxValue bound => { r with maxValue := bound }
  | .pattern source => if source.isEmpty then r else { r with pattern := some (.source source) }
  | .ignored _ => r

def tokenIgnored (token : String) : Event where
  name := "rule_token_ignored"
  severity := .debug
  channel := .validation
  values := [("token", .text token)]

/-- One token after the other, on a rule. -/
def applyTokens : List (List Char) → Rule → Traced Rule
  | [], r => pure r
  | cs :: rest, r => do
    let token ← Traced.ofExcept (Token.read cs)
    match token with
    | .ignored text => Traced.log (tokenIgnored text)
    | _ => pure ()
    applyTokens rest (r.apply token)

/-- The rule that a text describes. What the tokens set is what the text provides. -/
def ofText (s : String) : Traced Rule := do
  let r ← applyTokens (splitTokens s.toList) Rule.empty
  return { r with provided := r.explicit }

/-! ## Small facts -/

/-- What is logged about a token does not matter for the rule. -/
theorem outcome_applyTokens_cons (cs : List Char) (rest : List (List Char)) (r : Rule) :
    (applyTokens (cs :: rest) r).outcome =
      Token.read cs >>= fun token => (applyTokens rest (r.apply token)).outcome := by
  rw [applyTokens, Traced.outcome_bind, Traced.outcome_ofExcept]
  congr 1
  funext token
  cases token <;> rfl

end FieldRules.Rule
