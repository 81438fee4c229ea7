/-!
# Number — Double

Double-precision numbers, held exactly. Every finite double is an integer
multiple of the smallest positive one, so a finite double is a sign and a
count of these units; comparing doubles, and doubles with integers, is
comparing integers.
-/

namespace FieldRules.Number

/-- The unit is two to the minus this power. -/
def unitPower : Nat := 1074

/-- How many units make one. -/
def unitsPerOne : Nat := Nat.pow 2 unitPower

/-- Counts of units that a double can hold: below the limit of the format, and with at most
fifty-three significant bits. -/
def Representable (units : Nat) : Prop :=
  units < Nat.pow 2 2098 ∧ units % Nat.pow 2 (units.log2 - 52) = 0

instance (units : Nat) : Decidable (Representable units) :=
  inferInstanceAs (Decidable (_ ∧ _))

/-- A double: not a number, an infinity, or a signed count of units. The two zeros differ in
sign. -/
inductive Double where
  | nan
  | infinite (negative : Bool)
  | finite (negative : Bool) (units : Nat) (fits : Representable units)
deriving DecidableEq

namespace Double

/-! ## Rounding -/

/-- The quotient rounded to the nearest integer; a half goes to the even neighbour. -/
def divNearest (num den : Nat) : Nat :=
  let q := num / den
  let r := num % den
  if 2 * r < den then q
  else if den < 2 * r then q + 1
  else if q % 2 = 0 then q else q + 1

/-- The count of units nearest to `num / den` units among those with at most fifty-three
significant bits. -/
def roundUnits (num den : Nat) : Nat :=
  let step := Nat.pow 2 ((num / den).log2 - 52)
  divNearest num (den * step) * step

/-- The double nearest to `num / den`; beyond the largest one it is infinite. -/
def ofRatio (negative : Bool) (num den : Nat) : Double :=
  let units := roundUnits (num * unitsPerOne) den
  if fits : Representable units then .finite negative units fits else .infinite negative

/-- The double nearest to an integer. -/
def ofInt (n : Int) : Double :=
  ofRatio (n < 0) n.natAbs 1

/-! ## Classes and parts -/

def isFinite : Double → Bool
  | .finite .. => true
  | _ => false

/-- Finite, with no fractional part. -/
def isIntegral : Double → Bool
  | .finite _ units _ => units % unitsPerOne = 0
  | _ => false

/-- A finite double without its fractional part. -/
def truncate? : Double → Option Int
  | .finite negative units _ =>
    let n : Int := ((units / unitsPerOne : Nat) : Int)
    some (if negative then -n else n)
  | _ => none

/-- The two zeros. -/
def isZero : Double → Bool
  | .finite _ units _ => units = 0
  | _ => false

end Double

/-! ## The number line -/

/-- A place on the number line, counted in units, with its two ends. -/
inductive Place where
  | lowest
  | at (units : Int)
  | highest
deriving DecidableEq

/-- Strictly to the left. -/
def Place.before : Place → Place → Bool
  | .lowest, .lowest => false
  | .lowest, _ => true
  | .at _, .lowest => false
  | .at m, .at n => m < n
  | .at _, .highest => true
  | .highest, _ => false

/-- Where a double lies; not-a-number lies nowhere. -/
def Double.place? : Double → Option Place
  | .nan => none
  | .infinite true => some .lowest
  | .infinite false => some .highest
  | .finite true units _ => some (.at (-(units : Int)))
  | .finite false units _ => some (.at units)

/-- A number as rules hold it: an integer of any size, or a double. -/
inductive Numeric where
  | int (n : Int)
  | double (x : Double)
deriving DecidableEq

namespace Numeric

/-- Where a number lies. -/
def place? : Numeric → Option Place
  | .int n => some (.at (n * unitsPerOne))
  | .double x => x.place?

/-- Exact comparison; nothing is below or above not-a-number. -/
def below (a b : Numeric) : Bool :=
  match a.place?, b.place? with
  | some p, some q => p.before q
  | _, _ => false

/-- Equal as numbers; not-a-number equals nothing. -/
def equal (a b : Numeric) : Bool :=
  match a.place?, b.place? with
  | some p, some q => p == q
  | _, _ => false

end Numeric

end FieldRules.Number
