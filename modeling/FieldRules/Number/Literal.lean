import FieldRules.Text.Blank
import FieldRules.Number.Decimal

/-!
# Number — Literal

Numbers as people type them. A literal is an unsigned hexadecimal, binary or
octal integer with its prefix, or a decimal with optional sign, fraction and
exponent; digits are ASCII and nothing separates them. Surrounding white
space does not count.
-/

namespace FieldRules.Number

/-- A numeric literal, as its digits say it. -/
inductive Literal where
  | based (radix : Nat) (digits : List Char)
  | decimal (negative : Bool) (whole fraction : List Char) (exponent : Int)
deriving DecidableEq

/-- Why a text that looks like a number cannot be turned into one. -/
inductive Excess where
  /-- An integer literal beyond the largest double. -/
  | magnitude
  /-- An integer written with more digits than are read at once. -/
  | digits (count : Nat)
  /-- An integer with more digits than are written at once. -/
  | writing
deriving DecidableEq

/-- Integers are read from and written with at most this many digits. -/
def digitLimit : Nat := 4300

def Excess.message : Excess → String
  | .magnitude => "int too large to convert to float"
  | .digits count =>
    "Exceeds the limit (" ++ toString digitLimit ++
      " digits) for integer string conversion: value has " ++ toString count ++
      " digits; use sys.set_int_max_str_digits() to increase the limit"
  | .writing =>
    "Exceeds the limit (" ++ toString digitLimit ++
      " digits) for integer string conversion; use sys.set_int_max_str_digits() to increase " ++
      "the limit"

/-- An integer short enough to be written. -/
def isWritable (n : Int) : Bool :=
  decimalLength n.natAbs ≤ digitLimit

/-- The decimal text of an integer, unless it is too long to be written. -/
def integerText? (n : Int) : Except Excess String :=
  if isWritable n then .ok (integerText n) else .error .writing

namespace Numeric

/-- A number short enough to be written. -/
def isWritable : Numeric → Bool
  | .int n => Number.isWritable n
  | .double _ => true

/-- The text of a number, unless it is too long to be written. -/
def text? (a : Numeric) : Except Excess String :=
  if a.isWritable then .ok a.text else .error .writing

end Numeric

namespace Literal

/-! ## Grammar -/

/-- A sign, if one stands first, and the rest. -/
def readSign : List Char → Bool × List Char
  | '-' :: cs => (true, cs)
  | '+' :: cs => (false, cs)
  | cs => (false, cs)

/-- The decimal digits at the front, and the rest. -/
def readDigits (cs : List Char) : List Char × List Char :=
  cs.span (isDigitIn 10)

/-- The radix that a letter after a leading zero announces. -/
def radixOf? (c : Char) : Option Nat :=
  if c == 'x' || c == 'X' then some 16
  else if c == 'b' || c == 'B' then some 2
  else if c == 'o' || c == 'O' then some 8
  else none

/-- A prefixed integer that takes the whole text. -/
def readBased? : List Char → Option Literal
  | '0' :: c :: digits =>
    match radixOf? c with
    | some radix =>
      if !digits.isEmpty && digits.all (isDigitIn radix) then some (.based radix digits) else none
    | none => none
  | _ => none

/-- An exponent that takes the whole text; no text at all is the exponent zero. -/
def readExponent? : List Char → Option Int
  | [] => some 0
  | c :: cs =>
    if c == 'e' || c == 'E' then
      let (negative, rest) := readSign cs
      if !rest.isEmpty && rest.all (isDigitIn 10) then
        let n : Int := ((ofDigits 10 rest : Nat) : Int)
        some (if negative then -n else n)
      else none
    else none

/-- The fraction after the digits of the whole part, if a point follows them. -/
def readFraction : List Char → List Char × List Char
  | '.' :: cs => readDigits cs
  | cs => ([], cs)

/-- A decimal that takes the whole text. A point needs a digit on one of its sides. -/
def readDecimal? (cs : List Char) : Option Literal :=
  let (negative, unsigned) := readSign cs
  let (whole, afterWhole) := readDigits unsigned
  let (fraction, afterFraction) := readFraction afterWhole
  if whole.isEmpty && fraction.isEmpty then none
  else (readExponent? afterFraction).map (.decimal negative whole fraction)

/-- The literal that a text is, white space at its ends apart. -/
def read? (cs : List Char) : Option Literal :=
  let trimmed := Text.trim cs
  (readBased? trimmed).or (readDecimal? trimmed)

/-! ## Value -/

/-- The double nearest to a literal. A decimal beyond the largest double is no number; a prefixed
integer there is an excess. -/
def toDouble? : Literal → Except Excess (Option Double)
  | .based radix digits =>
    let x := Double.ofRatio false (ofDigits radix digits) 1
    if x.isFinite then .ok (some x) else .error .magnitude
  | .decimal negative whole fraction exponent =>
    let d : Decimal := ⟨ofDigits 10 (whole ++ fraction), exponent - fraction.length⟩
    let x := d.toDouble negative
    .ok (if x.isFinite then some x else none)

end Literal

/-- The finite number that a text denotes, if it is a numeric literal. -/
def parse? (cs : List Char) : Except Excess (Option Double) :=
  match Literal.read? cs with
  | some literal => literal.toDouble?
  | none => .ok none

/-! ## Bounds -/

/-- ASCII white space. -/
def isAsciiBlank (c : Char) : Bool :=
  c == ' ' || (9 ≤ c.toNat && c.toNat ≤ 13)

/-- The integer at the front of a text, after ASCII white space; what follows it is ignored. -/
def leadingInteger? (cs : List Char) : Except Excess (Option Int) :=
  let (negative, unsigned) := Literal.readSign (cs.dropWhile isAsciiBlank)
  let digits := unsigned.takeWhile (isDigitIn 10)
  if digits.isEmpty then .ok none
  else if digitLimit < digits.length then .error (.digits digits.length)
  else
    let n : Int := ((ofDigits 10 digits : Nat) : Int)
    .ok (some (if negative then -n else n))

/-- A finite double as a number, an integer when it has no fractional part. -/
def Double.toNumeric? (x : Double) : Option Numeric :=
  match x.truncate? with
  | some n => some (if x.isIntegral then .int n else .double x)
  | none => none

/-- The number that a text denotes, an integer when it has no fractional part. -/
def parseNumeric? (cs : List Char) : Except Excess (Option Numeric) :=
  (parse? cs).map (·.bind Double.toNumeric?)

end FieldRules.Number
