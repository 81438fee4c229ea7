import FieldRules.Text.Blank

/-!
# Address — Email

The loose shape of an email address: something, an at sign, and something
with a point inside it, all without white space. One newline at the very end
does not count.
-/

namespace FieldRules.Address.Email

/-- The text without a newline at its end. -/
def withoutLastNewline (cs : List Char) : List Char :=
  match cs.getLast? with
  | some '\n' => cs.dropLast
  | _ => cs

/-- A point stands somewhere between the first and the last character. -/
def hasInnerPoint (cs : List Char) : Bool :=
  (cs.drop 1).dropLast.contains '.'

/-- A local part, an at sign and a domain with a point inside. -/
def hasShape (cs : List Char) : Bool :=
  let (before, rest) := cs.span (· != '@')
  match rest with
  | [] => false
  | _ :: domain =>
    !before.isEmpty && !domain.contains '@' && hasInnerPoint domain && !cs.any Text.isBlank

def accepts (cs : List Char) : Bool :=
  hasShape (withoutLastNewline cs)

end FieldRules.Address.Email
