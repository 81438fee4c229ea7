import FieldRules.Text.Blank
import FieldRules.Text.Letter
import FieldRules.Number.Digits

/-!
# Address — Host

What may stand between the brackets of an authority: an address of eight
groups of hexadecimal digits, in any of its shortened forms, or a numbered
future form.
-/

namespace FieldRules.Address

/-! ## Dotted quads -/

/-- One number of a dotted quad: up to 255, without leading zeros. -/
def isOctet (cs : List Char) : Bool :=
  !cs.isEmpty && cs.all Text.isAsciiDigit && cs.length ≤ 3 &&
    (cs.length == 1 || cs.head? != some '0') && Number.ofDigits 10 cs ≤ 255

/-- Four numbers separated by points. -/
def isDottedQuad (cs : List Char) : Bool :=
  let octets := Text.splitOn (· == '.') cs
  octets.length == 4 && octets.all isOctet

/-! ## Groups of hexadecimal digits -/

/-- One group: one to four hexadecimal digits. -/
def isGroup (cs : List Char) : Bool :=
  !cs.isEmpty && cs.length ≤ 4 && cs.all (Number.isDigitIn 16)

/-- The pieces between colons, a dotted quad at the end standing for two groups; `none` when what
stands there looks like a dotted quad and is none. -/
def groupsOf (cs : List Char) : Option (List (List Char)) :=
  let parts := Text.splitOn (· == ':') cs
  match parts.getLast? with
  | some last =>
    if last.contains '.' then
      if isDottedQuad last then some (parts.dropLast ++ [['0'], ['0']]) else none
    else some parts
  | none => some parts

/-- The places, ends apart, where nothing stands between two colons. -/
def gaps (parts : List (List Char)) : List Nat :=
  (List.range (parts.length - 1)).filter fun i => 0 < i && ((parts[i]?).any (·.isEmpty))

/-- The pieces of an address with one gap: the gap may reach an end, and stands for at least one
group. -/
def fitAroundGap (parts : List (List Char)) (gap : Nat) : Bool :=
  let front := parts.take gap
  let back := parts.drop (gap + 1)
  let front' := if front.head? == some [] then front.drop 1 else front
  let back' := if back.getLast? == some [] then back.dropLast else back
  (front.head? != some [] || front'.isEmpty) &&
  (back.getLast? != some [] || back'.isEmpty) &&
  front'.length + back'.length ≤ 7 && front'.all isGroup && back'.all isGroup

/-- Eight groups, or fewer around one gap. -/
def isGrouped (cs : List Char) : Bool :=
  if (Text.splitOn (· == ':') cs).length < 3 then false
  else match groupsOf cs with
    | none => false
    | some parts =>
      if 9 < parts.length then false
      else match gaps parts with
        | [] => parts.length == 8 && parts.all isGroup
        | [gap] => fitAroundGap parts gap
        | _ => false

/-- An address of groups, possibly with the name of a zone after a percent sign. -/
def isZonedAddress (cs : List Char) : Bool :=
  let (address, zone) := cs.span (· != '%')
  match zone with
  | [] => isGrouped address
  | _ :: name => !name.isEmpty && !name.contains '%' && isGrouped address

/-- A future form: the letter v, hexadecimal digits, a point and at least one character. -/
def isFutureAddress : List Char → Bool
  | 'v' :: cs =>
    let (version, rest) := cs.span (Number.isDigitIn 16)
    match rest with
    | '.' :: name => !version.isEmpty && !name.isEmpty && !name.contains '\n'
    | _ => false
  | _ => false

/-- What may stand between brackets. -/
def isBracketed (cs : List Char) : Bool :=
  if cs.head? == some 'v' then isFutureAddress cs else isZonedAddress cs

end FieldRules.Address
