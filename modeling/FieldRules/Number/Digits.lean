/-!
# Number — Digits

Numbers as strings of digits: reading them in a radix, writing them in ten.
-/

namespace FieldRules.Number

/-- The value of a digit character in radixes up to sixteen. -/
def digitValue? (c : Char) : Option Nat :=
  if '0' ≤ c && c ≤ '9' then some (c.toNat - 48)
  else if 'a' ≤ c && c ≤ 'f' then some (c.toNat - 87)
  else if 'A' ≤ c && c ≤ 'F' then some (c.toNat - 55)
  else none

/-- A digit of the given radix. -/
def isDigitIn (radix : Nat) (c : Char) : Bool :=
  match digitValue? c with
  | some d => d < radix
  | none => false

/-- The number that a string of digits denotes, most significant digit first. -/
def ofDigits (radix : Nat) (cs : List Char) : Nat :=
  cs.foldl (fun n c => n * radix + (digitValue? c).getD 0) 0

/-- The decimal digits of a number, most significant first; zero has one digit. -/
def decimalDigits (n : Nat) : List Char :=
  Nat.toDigits 10 n

/-- How many decimal digits a number has. -/
def decimalLength (n : Nat) : Nat :=
  (decimalDigits n).length

/-- The decimal text of an integer, with a sign only when negative. -/
def integerChars (n : Int) : List Char :=
  if n < 0 then '-' :: decimalDigits n.natAbs else decimalDigits n.natAbs

/-- The decimal text of an integer, with a sign only when negative. -/
def integerText (n : Int) : String :=
  String.ofList (integerChars n)

end FieldRules.Number
