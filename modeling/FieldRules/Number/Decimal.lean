import FieldRules.Number.Digits
import FieldRules.Number.Double

/-!
# Number — Decimal

Between doubles and decimal text. Reading rounds to the nearest double.
Writing takes the fewest digits that read back as the same double, and of
those the nearest to it.
-/

namespace FieldRules.Number

/-- The number `digits · 10 ^ exponent`. -/
structure Decimal where
  digits : Nat
  exponent : Int
deriving DecidableEq

namespace Decimal

/-- The number `num · 10 ^ power / den` as a fraction. -/
def scaled (num den : Nat) (power : Int) : Nat × Nat :=
  if 0 ≤ power then (num * Nat.pow 10 power.toNat, den) else (num, den * Nat.pow 10 (-power).toNat)

/-- Beyond this power of ten everything is infinite, and below its inverse nothing is left. -/
def powerLimit : Int := 400

/-- The nearest double. The power of the leading digit settles numbers far outside the range of
doubles, so that no huge power of ten is formed for them. -/
def toDouble (negative : Bool) (d : Decimal) : Double :=
  let lead := d.exponent + decimalLength d.digits
  if d.digits = 0 || lead < -powerLimit then Double.ofRatio negative 0 1
  else if powerLimit < lead then .infinite negative
  else
    let f := scaled d.digits 1 d.exponent
    Double.ofRatio negative f.1 f.2

/-! ## Shortest digits -/

/-- The power of ten of the leading digit of `num / den`, which is not zero. -/
def leadingPower (num den : Nat) : Int :=
  if den ≤ num then (decimalLength (num / den) : Int) - 1
  else
    let len := decimalLength (den / num)
    if den = num * Nat.pow 10 (len - 1) then 1 - (len : Int) else -(len : Int)

/-- Reads back as the positive double with that many units. -/
def readsAs (units : Nat) (d : Decimal) : Bool :=
  match d.toDouble false with
  | .finite _ m _ => m = units
  | _ => false

/-- The decimal with `length` digits that is nearest to a double among the two neighbours of the
double on that grid that read back. -/
def ofLength? (units : Nat) (lead : Int) (length : Nat) : Option Decimal :=
  let exponent := lead - length + 1
  let f := scaled units unitsPerOne (-exponent)
  let lower : Decimal := ⟨f.1 / f.2, exponent⟩
  let upper : Decimal := ⟨f.1 / f.2 + 1, exponent⟩
  match readsAs units lower, readsAs units upper with
  | true, true => some ⟨Double.divNearest f.1 f.2, exponent⟩
  | true, false => some lower
  | false, true => some upper
  | false, false => none

/-- The double itself, as a decimal. -/
def exact (units : Nat) : Decimal :=
  ⟨units * Nat.pow 5 unitPower, -unitPower⟩

/-- The fewest digits that read back as the positive double with that many units. -/
def shortest (units : Nat) : Decimal :=
  let lead := leadingPower units unitsPerOne
  ((List.range 17).findSome? fun i => ofLength? units lead (i + 1)).getD (exact units)

/-! ## Layout -/

/-- A positive exponent's text: a sign and at least two digits. -/
def exponentChars (e : Int) : List Char :=
  let ds := decimalDigits e.natAbs
  (if e < 0 then '-' else '+') :: (if ds.length < 2 then '0' :: ds else ds)

/-- Digits around the decimal point, which stands after `point` of them. From `10 ^ -4` to
`10 ^ 16` the digits are written out, with at least one place after the point; outside they are
followed by the power of ten. -/
def layout (ds : List Char) (point : Int) : List Char :=
  if -4 < point && point ≤ 16 then
    if point ≤ 0 then '0' :: '.' :: (List.replicate (-point).toNat '0' ++ ds)
    else if (ds.length : Int) ≤ point then
      ds ++ List.replicate (point.toNat - ds.length) '0' ++ ['.', '0']
    else ds.take point.toNat ++ '.' :: ds.drop point.toNat
  else
    match ds with
    | [] => []
    | [d] => d :: 'e' :: exponentChars (point - 1)
    | d :: rest => d :: '.' :: (rest ++ 'e' :: exponentChars (point - 1))

/-- A positive decimal without the zeros at its end. -/
def chars (d : Decimal) : List Char :=
  let all := decimalDigits d.digits
  layout ((all.reverse.dropWhile (· == '0')).reverse) (d.exponent + all.length)

end Decimal

/-- The text of a double: the shortest decimal that reads back, or the name of what is no finite
number. -/
def Double.chars : Double → List Char
  | .nan => ['n', 'a', 'n']
  | .infinite true => ['-', 'i', 'n', 'f']
  | .infinite false => ['i', 'n', 'f']
  | .finite negative units _ =>
    let magnitude := if units = 0 then ['0', '.', '0'] else (Decimal.shortest units).chars
    if negative then '-' :: magnitude else magnitude

/-- The text of a double. -/
def Double.text (x : Double) : String :=
  String.ofList x.chars

/-- The text of a number: the digits of an integer, the shortest form of a double. -/
def Numeric.text : Numeric → String
  | .int n => integerText n
  | .double x => x.text

end FieldRules.Number
