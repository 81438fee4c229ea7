import FieldRules.Text.Quoted
import FieldRules.Value.Text

/-!
# Document — JsonWriter

Writing JSON, on one line or indented, in ASCII alone or with all characters
as they are.
-/

namespace FieldRules.Json

/-- How a document is written. -/
structure Style where
  /-- Escape what is not ASCII. -/
  ascii : Bool
  /-- Spaces for each level, or everything on one line. -/
  indent : Option Nat

/-- One line in ASCII. -/
def Style.line : Style := ⟨true, none⟩

/-- Two spaces for each level, all characters as they are. -/
def Style.pretty : Style := ⟨false, some 2⟩

/-! ## Strings -/

/-- A unit of sixteen bits as an escape. -/
def unitEscape (n : Nat) : List Char := '\\' :: 'u' :: Text.hexDigits 4 n

/-- A character as an escape, or as a pair of them. -/
def codeEscape (n : Nat) : List Char :=
  if n < 0x10000 then unitEscape n
  else
    unitEscape (0xD800 + (n - 0x10000) / 0x400) ++ unitEscape (0xDC00 + (n - 0x10000) % 0x400)

/-- One character of a string. -/
def writeChar (ascii : Bool) (c : Char) : List Char :=
  if c == '"' then ['\\', '"']
  else if c == '\\' then ['\\', '\\']
  else if c == '\n' then ['\\', 'n']
  else if c == '\r' then ['\\', 'r']
  else if c == '\t' then ['\\', 't']
  else if c == '\x0c' then ['\\', 'f']
  else if c == '\x08' then ['\\', 'b']
  else if c.toNat < 32 || (ascii && 127 ≤ c.toNat) then codeEscape c.toNat
  else [c]

def writeString (ascii : Bool) (s : String) : String :=
  String.ofList ('"' :: (s.toList.flatMap (writeChar ascii) ++ ['"']))

/-! ## Values -/

def writeDouble : Number.Double → String
  | .nan => "NaN"
  | .infinite true => "-Infinity"
  | .infinite false => "Infinity"
  | x => x.text

/-- A key of an object; a key that is no text is written as its value would be. -/
def keyText : Value → String
  | .text s => s
  | .null => "null"
  | .bool b => if b then "true" else "false"
  | .float x => writeDouble x
  | v => v.display

/-- A new line at a level, or nothing. -/
def breakAt (style : Style) (level : Nat) : String :=
  match style.indent with
  | none => ""
  | some width => String.ofList ('\n' :: List.replicate (width * level) ' ')

/-- What separates neighbours at a level. -/
def separator (style : Style) (level : Nat) : String :=
  match style.indent with
  | none => ", "
  | some _ => "," ++ breakAt style level

/-- Parts between brackets, one level inside `level`. -/
def enclose (style : Style) (level : Nat) (opening closing : String) (parts : List String) :
    String :=
  if parts.isEmpty then opening ++ closing
  else
    opening ++ breakAt style (level + 1) ++
      Text.joinWith (separator style (level + 1)) parts ++ breakAt style level ++ closing

mutual

/-- A value at a level. What JSON has no form for is written as a string. -/
def write (style : Style) : Nat → Value → String
  | _, .null => "null"
  | _, .bool b => if b then "true" else "false"
  | _, .int n => Number.integerText n
  | _, .float x => writeDouble x
  | _, .text s => writeString style.ascii s
  | level, .list items => enclose style level "[" "]" (writeItems style (level + 1) items)
  | level, .tuple items => enclose style level "[" "]" (writeItems style (level + 1) items)
  | level, .dict entries =>
    enclose style level "\x7b" "\x7d" (writeMembers style (level + 1) entries)
  | _, v => writeString style.ascii v.display

def writeItems (style : Style) : Nat → List Value → List String
  | _, [] => []
  | level, v :: rest => write style level v :: writeItems style level rest

def writeMembers (style : Style) : Nat → List (Value × Value) → List String
  | _, [] => []
  | level, (k, v) :: rest =>
    (writeString style.ascii (keyText k) ++ ": " ++ write style level v) ::
      writeMembers style level rest

end

/-- The document for a value. -/
def document (style : Style) (v : Value) : String := write style 0 v

end FieldRules.Json
