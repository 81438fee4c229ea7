import FieldRules.Pattern.Reader
import FieldRules.Pattern.Search

/-!
# Pattern — Compiled

A pattern that has been read: its source, its tree and its options.
-/

namespace FieldRules

/-- A search pattern ready for use. -/
structure Pattern where
  source : String
  tree : Pattern.Tree
  flags : Pattern.Flags
deriving DecidableEq

namespace Pattern

/-- The pattern of a source, or why there is none. -/
def compile (source : String) : Except Refusal Pattern :=
  match readTree source.toList with
  | .ok (tree, flags) => .ok ⟨source, tree, flags⟩
  | .error refusal => .error refusal

/-- The text contains a match. -/
def foundIn (p : Pattern) (s : String) : Bool :=
  p.tree.foundIn s.toList

/-- Names of the options that are on. -/
def Flags.names (f : Flags) : List String :=
  (if f.ignoreCase then ["re.IGNORECASE"] else []) ++
  (if f.multiLine then ["re.MULTILINE"] else []) ++
  (if f.dotAll then ["re.DOTALL"] else []) ++
  (if f.spaced then ["re.VERBOSE"] else []) ++
  (if f.ascii then ["re.ASCII"] else [])

/-- The text of a pattern: the call that makes it, its source cut after two hundred characters. -/
def text (p : Pattern) : String :=
  let source := (Text.quoted p.source.toList).take 200
  let options := if p.flags.names.isEmpty then "" else ", " ++ Text.joinWith "|" p.flags.names
  "re.compile(" ++ String.ofList source ++ options ++ ")"

end Pattern
end FieldRules
