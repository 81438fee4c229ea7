import FieldRules.Text.Quoted
import FieldRules.Number.Literal

/-!
# Pattern — Flaw

What can be wrong with the source of a pattern, and how it is said. A flaw
usually has a position, counted in characters from the start; when the
source has several lines the message also names line and column.
-/

namespace FieldRules.Pattern

inductive Flaw where
  | unterminatedGroup
  | unterminatedSet
  | unterminatedComment
  | unbalancedParenthesis
  | nothingToRepeat
  | multipleRepeat
  | reversedRepeat
  | badRange (first last : List Char)
  | badEscape (escape : List Char)
  | escapeAtEnd
  | incompleteEscape (escape : List Char)
  | octalTooLarge (escape : List Char)
  | missingBrace
  | unknownCharacterName (name : List Char)
  | invalidGroupReference (index : Nat)
  | openGroupReference
  | lookBehindGroupReference
  | unexpectedEnd
  | unknownExtension (extension : List Char)
  | unknownGroupName (name : List Char)
  | badGroupName (name : List Char)
  | badGroupNumber
  | redefinedGroup (name : List Char) (new old : Nat)
  | missingName (what : String)
  | unterminatedName (terminator : Char)
  | tooManyBranches
  | misplacedFlags
  | unknownFlag
  | missingAfterFlags (what : String)
  | forbiddenFlags (why : String)
  | variableLookBehind
deriving DecidableEq

private def shown (cs : List Char) : String := String.ofList cs

/-- The name of a flaw. -/
def Flaw.message : Flaw → String
  | .unterminatedGroup => "missing ), unterminated subpattern"
  | .unterminatedSet => "unterminated character set"
  | .unterminatedComment => "missing ), unterminated comment"
  | .unbalancedParenthesis => "unbalanced parenthesis"
  | .nothingToRepeat => "nothing to repeat"
  | .multipleRepeat => "multiple repeat"
  | .reversedRepeat => "min repeat greater than max repeat"
  | .badRange first last => "bad character range " ++ shown first ++ "-" ++ shown last
  | .badEscape escape => "bad escape " ++ shown escape
  | .escapeAtEnd => "bad escape (end of pattern)"
  | .incompleteEscape escape => "incomplete escape " ++ shown escape
  | .octalTooLarge escape =>
    "octal escape value " ++ shown escape ++ " outside of range 0-0o377"
  | .missingBrace => "missing \x7b"
  | .unknownCharacterName name => "undefined character name " ++ shown (Text.quoted name)
  | .invalidGroupReference index => "invalid group reference " ++ toString index
  | .openGroupReference => "cannot refer to an open group"
  | .lookBehindGroupReference =>
    "cannot refer to group defined in the same lookbehind subpattern"
  | .unexpectedEnd => "unexpected end of pattern"
  | .unknownExtension extension => "unknown extension ?" ++ shown extension
  | .unknownGroupName name => "unknown group name " ++ shown (Text.quoted name)
  | .badGroupName name => "bad character in group name " ++ shown (Text.quoted name)
  | .badGroupNumber => "bad group number"
  | .redefinedGroup name new old =>
    "redefinition of group name " ++ shown (Text.quoted name) ++ " as group " ++ toString new ++
      "; was group " ++ toString old
  | .missingName what => "missing " ++ what
  | .unterminatedName terminator => "missing " ++ shown [terminator] ++ ", unterminated name"
  | .tooManyBranches => "conditional backref with more than two branches"
  | .misplacedFlags => "global flags not at the start of the expression"
  | .unknownFlag => "unknown flag"
  | .missingAfterFlags what => "missing " ++ what
  | .forbiddenFlags why => "bad inline flags: " ++ why
  | .variableLookBehind => "look-behind requires fixed-width pattern"

/-- Why a source is no pattern: a flaw, most often at a position, a repetition count that is too
large, or flags for the whole pattern that ask for both scripts of the classes. -/
inductive Refusal where
  | flaw (f : Flaw) (position : Option Nat)
  | excess (e : Number.Excess)
  | scriptClash
deriving DecidableEq

/-- The line of a position, counted from one. -/
def lineOf (source : List Char) (position : Nat) : Nat :=
  (source.take position).count '\n' + 1

/-- The column of a position on its line, counted from one. -/
def columnOf (source : List Char) (position : Nat) : Nat :=
  ((source.take position).reverse.takeWhile (· != '\n')).length + 1

/-- The message for a flaw in a source: its name, and where it is. -/
def Flaw.describe (f : Flaw) (source : List Char) : Option Nat → String
  | none => f.message
  | some position =>
    let located := f.message ++ " at position " ++ toString position
    if source.contains '\n' then
      located ++ " (line " ++ toString (lineOf source position) ++ ", column " ++
        toString (columnOf source position) ++ ")"
    else located

end FieldRules.Pattern
