import FieldRules.Text.TitleTable

/-!
# Options — Key

Keys with low lines in the spelling where each further word starts with a
capital letter.
-/

namespace FieldRules.Options

/-- The text with a capital at the start of each run of letters and small letters elsewhere;
`inRun` says that a letter stands before it. -/
def titleCase (inRun : Bool) : List Char → List Char
  | [] => []
  | c :: cs =>
    (if inRun then Text.lowerChars c else Text.titleChars c) ++ titleCase (Text.isCased c) cs

/-- A letter or digit. -/
def isKeyChar (c : Char) : Bool := Text.isAsciiLetter c || Text.isAsciiDigit c

/-- A capital letter or digit. -/
def opensWord (c : Char) : Bool := Text.isAsciiUpper c || Text.isAsciiDigit c

/-- The text without the low lines that stand between a letter or digit and the opening of a
word. -/
def joinWords : List Char → List Char
  | a :: '_' :: b :: cs =>
    if isKeyChar a && opensWord b then a :: joinWords (b :: cs) else a :: joinWords ('_' :: b :: cs)
  | c :: cs => c :: joinWords cs
  | [] => []

/-- The text with its first capital letter made small, where only low lines stand before it. -/
def lowerFirst : List Char → List Char
  | '_' :: cs => '_' :: lowerFirst cs
  | c :: cs => (if Text.isAsciiUpper c then Char.ofNat (c.toNat + 32) else c) :: cs
  | [] => []

/-- The spelling with capitals of a key that has low lines. -/
def camelKey (key : String) : String :=
  String.ofList (lowerFirst (joinWords (titleCase false key.toList)))

end FieldRules.Options
