import FieldRules.Rule.OfDict
import FieldRules.Rule.Token

/-!
# Rule — Normalize

The rule that any value stands for, and the compiled pattern of a rule.
-/

namespace FieldRules.Rule

/-- The rule of a value: a text of tokens, a mapping, or a rule as it is. Any other value, and
every value that does not count as given, is the rule that asks for nothing. -/
def normalize (raw : Value) : Traced Rule :=
  if raw.truthy then
    match raw with
    | .rule r => pure r
    | .dict d => Traced.ofExcept (ofDict d)
    | .text s => ofText s
    | _ => pure empty
  else pure empty

/-- A name that the rule carries among its extras. -/
def name (r : Rule) : Value :=
  Dict.getD r.extras "name"

/-- The source of the pattern; an empty text is none. -/
def patternSource? (r : Rule) : Option String :=
  match r.pattern with
  | none => none
  | some (.compiled p) => some p.source
  | some (.source s) => if s.isEmpty then none else some s

/-- The function that renders the field in place of the usual markup. -/
def renderOverride? (r : Rule) : Option Handle :=
  match r.ui.bind Presentation.render with
  | some f => some f
  | none => (Dict.getD r.extras "render").function?

/-- The compiled pattern. A flaw in the source is a fault that names the field. -/
def compiledPattern (r : Rule) (field : Value) : Except Fault (Option Pattern) :=
  match r.pattern with
  | none => .ok none
  | some (.compiled p) => .ok (some p)
  | some (.source s) =>
    match Pattern.compile s with
    | .ok p => .ok (some p)
    | .error (.excess e) => .error (.excess e)
    | .error .scriptClash => .error (.refusal "ASCII and UNICODE flags are incompatible")
    | .error (.flaw f position) =>
      .error (.ruleConfiguration
        (UsageError.invalidPattern s (f.describe s.toList position) field "rules"))

end FieldRules.Rule
