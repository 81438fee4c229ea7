import FieldRules.Text.CharacterTable
import FieldRules.Text.WordTable
import FieldRules.Text.NameTable
import FieldRules.Text.CaseTable

/-!
# Text — Letter

Classes of characters and the mappings between upper and lower case.
-/

namespace FieldRules.Text

/-! ## Classes -/

/-- Membership in a list of closed ranges. -/
def inRanges (ranges : List (Nat × Nat)) (n : Nat) : Bool :=
  ranges.any fun r => r.1 ≤ n && n ≤ r.2

def isAsciiLower (c : Char) : Bool := 'a' ≤ c && c ≤ 'z'

def isAsciiUpper (c : Char) : Bool := 'A' ≤ c && c ≤ 'Z'

def isAsciiLetter (c : Char) : Bool := isAsciiLower c || isAsciiUpper c

def isAsciiDigit (c : Char) : Bool := '0' ≤ c && c ≤ '9'

/-- Letters, numbers and the low line, of every script. -/
def isWord (c : Char) : Bool :=
  if c.toNat < 128 then isAsciiLetter c || isAsciiDigit c || c == '_'
  else inRanges wordRanges c.toNat

/-- Decimal digits of every script. -/
def isDigit (c : Char) : Bool :=
  if c.toNat < 128 then isAsciiDigit c else inRanges digitRanges c.toNat

/-- A name: a letter or low line, then letters, digits, low lines and marks. -/
def isName : List Char → Bool
  | [] => false
  | c :: cs => inRanges nameStartRanges c.toNat && cs.all fun d => inRanges namePartRanges d.toNat

/-- The character of a name, in capitals or not, as far as the table of names goes. -/
def characterNamed? (name : List Char) : Option Nat :=
  let capital (c : Char) : Char := if isAsciiLower c then Char.ofNat (c.toNat - 32) else c
  characterNames.lookup (String.ofList (name.map capital))

/-! ## Case -/

/-- The image of `n` when `n` lies on the run. -/
def CaseRun.image? (run : CaseRun) (n : Nat) : Option Nat :=
  if run.first ≤ n && n ≤ run.last && (n - run.first) % run.step == 0 then
    some ((n : Int) + run.shift).toNat
  else none

/-- Lower-case form of a code point, itself when it has none. -/
def lowerCode (n : Nat) : Nat :=
  if n < 128 then (if 65 ≤ n && n ≤ 90 then n + 32 else n)
  else (lowerRuns.findSome? (·.image? n)).getD n

/-- Upper-case form of a code point: usually one code point, sometimes several. -/
def upperCodes (n : Nat) : List Nat :=
  if n < 128 then (if 97 ≤ n && n ≤ 122 then [n - 32] else [n])
  else match upperSpecials.lookup n with
    | some codes => codes
    | none => [(upperRuns.findSome? (·.image? n)).getD n]

/-- Upper-case form of a character. -/
def upperChars (c : Char) : List Char :=
  (upperCodes c.toNat).map Char.ofNat

/-- Lower-case form of a character; the dotted capital I keeps its dot as a mark. -/
def lowerChars (c : Char) : List Char :=
  if c.toNat == 0x130 then ['i', Char.ofNat 0x307] else [Char.ofNat (lowerCode c.toNat)]

def upperString (s : String) : String :=
  String.ofList (s.toList.flatMap upperChars)

def lowerString (s : String) : String :=
  String.ofList (s.toList.flatMap lowerChars)

/-- The text with its first character in upper case. -/
def capitalize : List Char → List Char
  | [] => []
  | c :: cs => upperChars c ++ cs

end FieldRules.Text
