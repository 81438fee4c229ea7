import FieldRules.Number.Literal
import FieldRules.Text.Blank
import FieldRules.Value.Dict

/-!
# Document — Json

Reading JSON. Objects keep the order of their names; of a name that comes
twice the first place and the last value count. The three names of what is no
finite number are accepted. An escape may give half of a pair of units on its
own, which is no character: `half` says what stands for it.
-/

namespace FieldRules.Json

/-! ## Flaws -/

inductive Flaw where
  | expectingValue
  | expectingName
  | expectingColon
  | expectingComma
  | extraData
  | unterminatedString
  | controlCharacter
  | badEscape
  | badUnicodeEscape
  | byteOrderMark
  /-- An integer with more digits than are read. -/
  | longInteger (digits : Nat)
deriving DecidableEq

def Flaw.message : Flaw → String
  | .expectingValue => "Expecting value"
  | .expectingName => "Expecting property name enclosed in double quotes"
  | .expectingColon => "Expecting ':' delimiter"
  | .expectingComma => "Expecting ',' delimiter"
  | .extraData => "Extra data"
  | .unterminatedString => "Unterminated string starting at"
  | .controlCharacter => "Invalid control character at"
  | .badEscape => "Invalid \\escape"
  | .badUnicodeEscape => "Invalid \\uXXXX escape"
  | .byteOrderMark => "Unexpected UTF-8 BOM (decode using utf-8-sig)"
  | .longInteger digits => (Number.Excess.digits digits).message

/-- A flaw, with the number of characters left where it was found. -/
structure Stop where
  flaw : Flaw
  left : Nat

/-- What has been read, and the characters left. -/
abbrev Step (α : Type) := Except Stop (α × List Char)

def stop {α : Type} (f : Flaw) (rest : List Char) : Step α :=
  .error ⟨f, rest.length⟩

/-- The message for a stop: a flaw is named with its line, its column and its position. -/
def Stop.describe (s : Stop) (source : List Char) : String :=
  match s.flaw with
  | .longInteger _ => s.flaw.message
  | f =>
    let before := source.take (source.length - s.left)
    let column := (before.reverse.takeWhile (· != '\n')).length + 1
    f.message ++ ": line " ++ toString (before.count '\n' + 1) ++ " column " ++
      toString column ++ " (char " ++ toString before.length ++ ")"

/-! ## Tokens -/

def isSpace (c : Char) : Bool := c == ' ' || c == '\t' || c == '\n' || c == '\r'

def skipSpace (cs : List Char) : List Char := cs.dropWhile isSpace

/-- Four hexadecimal digits. -/
def hexQuad? : List Char → Option (Nat × List Char)
  | a :: b :: c :: d :: rest =>
    if [a, b, c, d].all (Number.isDigitIn 16) then some (Number.ofDigits 16 [a, b, c, d], rest)
    else none
  | _ => none

/-- The character of an escape with one letter. -/
def shortEscape? (c : Char) : Option Char :=
  match c with
  | '"' => some '"'
  | '\\' => some '\\'
  | '/' => some '/'
  | 'b' => some '\x08'
  | 'f' => some '\x0c'
  | 'n' => some '\n'
  | 'r' => some '\r'
  | 't' => some '\t'
  | _ => none

/-- The second half of a pair of units that stand for one character. -/
def lowHalf? : List Char → Option (Nat × List Char)
  | '\\' :: 'u' :: cs =>
    match hexQuad? cs with
    | some (n, rest) => if 0xDC00 ≤ n && n < 0xE000 then some (n, rest) else none
    | none => none
  | _ => none

section
variable (half : Nat → Char)

/-- The character for a unit. -/
def unitChar (n : Nat) : Char :=
  if 0xD800 ≤ n && n < 0xE000 then half n else Char.ofNat n

/-- The character of an escape given by its unit, or by a pair of units. -/
def joinUnits (n : Nat) (rest : List Char) : Char × List Char :=
  if 0xD800 ≤ n && n < 0xDC00 then
    match lowHalf? rest with
    | some (m, rest') => (Char.ofNat (0x10000 + (n - 0xD800) * 0x400 + (m - 0xDC00)), rest')
    | none => (unitChar half n, rest)
  else (unitChar half n, rest)

/-- The rest of a string after its opening quote, `opening` being the text from that quote on;
`fuel` exceeds the characters left. -/
def readChars (opening : List Char) : Nat → List Char → List Char → Step String
  | 0, _, _ => stop .unterminatedString opening
  | _ + 1, [], _ => stop .unterminatedString opening
  | fuel + 1, c :: cs, found =>
    if c == '"' then .ok (String.ofList found.reverse, cs)
    else if c == '\\' then
      match cs with
      | [] => stop .unterminatedString opening
      | 'u' :: digits =>
        match hexQuad? digits with
        | none => stop .badUnicodeEscape cs
        | some (_, []) => stop .badUnicodeEscape cs
        | some (n, rest) =>
          let (d, rest') := joinUnits half n rest
          readChars opening fuel rest' (d :: found)
      | e :: rest =>
        match shortEscape? e with
        | some d => readChars opening fuel rest (d :: found)
        | none => stop .badEscape (c :: cs)
    else if c.toNat < 32 then stop .controlCharacter (c :: cs)
    else readChars opening fuel cs (c :: found)

/-- A string, from its opening quote on. -/
def readString (cs : List Char) : Step String :=
  readChars half cs (cs.length + 1) (cs.drop 1) []

end

/-- The fraction of a number: a point with at least one digit after it. -/
def readFraction : List Char → List Char × List Char
  | '.' :: cs =>
    let (digits, rest) := cs.span (Number.isDigitIn 10)
    if digits.isEmpty then ([], '.' :: cs) else (digits, rest)
  | cs => ([], cs)

/-- The exponent of a number, if there is one with at least one digit. -/
def readExponent (cs : List Char) : Option Int × List Char :=
  match cs with
  | c :: rest =>
    if c == 'e' || c == 'E' then
      let (negative, unsigned) := Number.Literal.readSign rest
      let (digits, after) := unsigned.span (Number.isDigitIn 10)
      if digits.isEmpty then (none, cs)
      else
        let n : Int := ((Number.ofDigits 10 digits : Nat) : Int)
        (some (if negative then -n else n), after)
    else (none, cs)
  | [] => (none, cs)

/-- The digits of the whole part: a zero alone, or any digits that do not start with one. -/
def readWhole : List Char → List Char × List Char
  | '0' :: cs => (['0'], cs)
  | cs => cs.span (Number.isDigitIn 10)

/-- A number: an integer unless it has a fraction or an exponent. -/
def readNumber (cs : List Char) : Step Value :=
  let negative := cs.head? == some '-'
  let (whole, afterWhole) := readWhole (if negative then cs.drop 1 else cs)
  if whole.isEmpty then stop .expectingValue cs
  else
    let (fraction, afterFraction) := readFraction afterWhole
    let (exponent, rest) := readExponent afterFraction
    if fraction.isEmpty && exponent.isNone then
      if Number.digitLimit < whole.length then stop (.longInteger whole.length) cs
      else
        let n : Int := ((Number.ofDigits 10 whole : Nat) : Int)
        .ok (.int (if negative then -n else n), rest)
    else
      let d : Number.Decimal :=
        ⟨Number.ofDigits 10 (whole ++ fraction), exponent.getD 0 - fraction.length⟩
      .ok (.float (d.toDouble negative), rest)

/-- Names that stand for values. -/
def names : List (List Char × Value) :=
  [("null".toList, .null), ("true".toList, .bool true), ("false".toList, .bool false),
   ("NaN".toList, .float .nan), ("Infinity".toList, .float (.infinite false)),
   ("-Infinity".toList, .float (.infinite true))]

/-- A value without parts: a name or a number. -/
def readAtom (cs : List Char) : Step Value :=
  match names.find? fun n => n.1.isPrefixOf cs with
  | some (name, v) => .ok (v, cs.drop name.length)
  | none => readNumber cs

/-! ## Values -/

section
variable (half : Nat → Char)

mutual

/-- A value at the front of a text; `fuel` exceeds the characters left. -/
def readValue : Nat → List Char → Except Stop (Value × List Char)
  | 0, cs => stop .expectingValue cs
  | fuel + 1, cs =>
    match cs with
    | [] => stop .expectingValue cs
    | '"' :: _ => do
      let (s, rest) ← readString half cs
      return (.text s, rest)
    | '\x7b' :: after =>
      match skipSpace after with
      | '\x7d' :: rest => .ok (.dict [], rest)
      | rest => readMembers fuel rest []
    | '[' :: after =>
      match skipSpace after with
      | ']' :: rest => .ok (.list [], rest)
      | rest => readItems fuel rest []
    | _ => readAtom cs

/-- The members of an object from a name on. -/
def readMembers : Nat → List Char → Dict → Except Stop (Value × List Char)
  | 0, cs, _ => stop .expectingName cs
  | fuel + 1, cs, found =>
    match cs with
    | '"' :: _ => do
      let (name, afterName) ← readString half cs
      match skipSpace afterName with
      | ':' :: rest =>
        let (v, afterValue) ← readValue fuel (skipSpace rest)
        let members := found.set name v
        match skipSpace afterValue with
        | '\x7d' :: rest => return (.dict members, rest)
        | ',' :: rest => readMembers fuel (skipSpace rest) members
        | rest => stop .expectingComma rest
      | rest => stop .expectingColon rest
    | _ => stop .expectingName cs

/-- The items of a list from a value on. -/
def readItems : Nat → List Char → List Value → Except Stop (Value × List Char)
  | 0, cs, _ => stop .expectingValue cs
  | fuel + 1, cs, found => do
    let (v, afterValue) ← readValue fuel cs
    match skipSpace afterValue with
    | ']' :: rest => return (.list (v :: found).reverse, rest)
    | ',' :: rest => readItems fuel (skipSpace rest) (v :: found)
    | rest => stop .expectingComma rest

end

/-- The value that a document holds. -/
def readDocument (cs : List Char) : Except Stop Value :=
  if cs.head? == some (Char.ofNat 0xFEFF) then .error ⟨.byteOrderMark, cs.length⟩
  else
    match readValue half (cs.length + 1) (skipSpace cs) with
    | .error s => .error s
    | .ok (v, rest) =>
      match skipSpace rest with
      | [] => .ok v
      | left => .error ⟨.extraData, left.length⟩

/-- The value that a document holds, or the message why it holds none. -/
def parse (source : String) : Except String Value :=
  match readDocument half source.toList with
  | .ok v => .ok v
  | .error s => .error (s.describe source.toList)

end

end FieldRules.Json
