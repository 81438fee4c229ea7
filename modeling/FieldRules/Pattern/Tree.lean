/-!
# Pattern — Tree

The structure of a search pattern. Letter case, line handling and the script
of the classes are settled while a pattern is read, so each node says for
itself how it compares.
-/

namespace FieldRules.Pattern

/-- Classes of characters that have an escape of their own. -/
inductive Category where
  | digit
  | blank
  | word
deriving DecidableEq

/-- How characters are compared: with or without regard to case, and with classes of all scripts
or of ASCII alone. -/
structure Manner where
  ignoreCase : Bool := false
  ascii : Bool := false
deriving DecidableEq

/-- A member of a character set. Characters are given by code point. -/
inductive SetItem where
  | char (code : Nat)
  | range (first last : Nat)
  | category (kind : Category) (negated : Bool)
deriving DecidableEq

/-- Conditions on a position that consume nothing. -/
inductive Anchor where
  | textStart
  | textEnd
  | lineStart
  | lineEnd
  /-- The end of the text, or before a newline that ends it. -/
  | lastLineEnd
  | boundary (ascii : Bool)
  | notBoundary (ascii : Bool)
deriving DecidableEq

/-- How a repetition chooses its count: as many as possible first, as few as possible first, or
as many as possible with no second choice. -/
inductive Greed where
  | greedy
  | lazy
  | possessive
deriving DecidableEq

inductive Tree where
  | empty
  | any (newlines : Bool)
  | set (manner : Manner) (negated : Bool) (items : List SetItem)
  | anchor (a : Anchor)
  | seq (first second : Tree)
  | either (left right : Tree)
  | group (index : Nat) (body : Tree)
  | sameAs (index : Nat) (manner : Manner)
  | repeated (min : Nat) (max : Option Nat) (greed : Greed) (body : Tree)
  | lookAhead (negated : Bool) (body : Tree)
  | lookBehind (negated : Bool) (width : Nat) (body : Tree)
  | atomic (body : Tree)
  | ifGroup (index : Nat) (yes no : Tree)
deriving DecidableEq

/-- Options that hold for a whole pattern. -/
structure Flags where
  ignoreCase : Bool := false
  multiLine : Bool := false
  dotAll : Bool := false
  spaced : Bool := false
  ascii : Bool := false
deriving DecidableEq

def Flags.manner (f : Flags) : Manner := ⟨f.ignoreCase, f.ascii⟩

end FieldRules.Pattern
