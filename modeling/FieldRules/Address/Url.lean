import FieldRules.Address.Host

/-!
# Address — Url

Splitting a URL into scheme, authority and path, and the URLs that a field
accepts: absolute ones, which for the schemes of the web name a host.
-/

namespace FieldRules.Address

/-- The parts of a URL that matter here. Query and fragment are cut off the path. -/
structure Url where
  scheme : List Char
  authority : List Char
  path : List Char
deriving DecidableEq

namespace Url

/-! ## Splitting -/

/-- Characters of a scheme. -/
def isSchemeChar (c : Char) : Bool :=
  Text.isAsciiLetter c || Text.isAsciiDigit c || c == '+' || c == '-' || c == '.'

/-- A scheme: a letter, then characters of a scheme. -/
def isScheme : List Char → Bool
  | [] => false
  | c :: cs => Text.isAsciiLetter c && cs.all isSchemeChar

/-- Control characters and the space are dropped in front of a URL. -/
def isLeading (c : Char) : Bool := c.toNat ≤ 32

/-- What stands before and after the first colon. -/
def splitColon (cs : List Char) : List Char × Option (List Char) :=
  let (before, rest) := cs.span (· != ':')
  match rest with
  | [] => (before, none)
  | _ :: after => (before, some after)

/-- The scheme in small letters, empty where there is none, and the rest. -/
def splitScheme (cs : List Char) : List Char × List Char :=
  match splitColon cs with
  | (before, some after) => if isScheme before then (before.map Char.toLower, after) else ([], cs)
  | (_, none) => ([], cs)

/-- The authority after two slashes, empty where there is none, and the rest. -/
def splitAuthority : List Char → List Char × List Char
  | '/' :: '/' :: cs => cs.span fun c => c != '/' && c != '?' && c != '#'
  | cs => ([], cs)

/-- The part before the query and the fragment. -/
def pathOf (cs : List Char) : List Char :=
  cs.takeWhile fun c => c != '#' && c != '?'

/-! ## Authorities that are refused -/

/-- What stands after the last `@`. -/
def afterUser (authority : List Char) : List Char :=
  (authority.reverse.takeWhile (· != '@')).reverse

/-- Brackets, where there are any, enclose an address, with nothing before them and at most a port
after them. -/
def bracketsFit (authority : List Char) : Bool :=
  match authority.contains '[', authority.contains ']' with
  | false, false => true
  | true, true =>
    let host := afterUser authority
    let (before, bracketed) := host.span (· != '[')
    match bracketed with
    | [] => isBracketed (splitColon host).1
    | _ :: inside =>
      let (name, rest) := inside.span (· != ']')
      let port := rest.drop 1
      before.isEmpty && (port.isEmpty || port.head? == some ':') && isBracketed name
  | _, _ => false

/-- Characters that a compatibility decomposition turns into one that ends an authority or
separates its parts. -/
def hiddenSeparators : List Nat :=
  [0x2047, 0x2048, 0x2049, 0x2100, 0x2101, 0x2105, 0x2106, 0x2A74, 0xFE13, 0xFE16, 0xFE55,
   0xFE56, 0xFE5F, 0xFE6B, 0xFF03, 0xFF0F, 0xFF1A, 0xFF1F, 0xFF20]

/-- No character stands for a separator. -/
def separatorsPlain (authority : List Char) : Bool :=
  !authority.any fun c => hiddenSeparators.contains c.toNat

/-- The parts of a URL, unless its authority is refused. -/
def split? (cs : List Char) : Option Url :=
  let (scheme, rest) := splitScheme (cs.dropWhile isLeading)
  let (authority, tail) := splitAuthority rest
  if bracketsFit authority && separatorsPlain authority then
    some ⟨scheme, authority, pathOf tail⟩
  else none

/-! ## Acceptance -/

/-- Schemes whose URLs carry a host. -/
def hostSchemes : List (List Char) :=
  [['h', 't', 't', 'p'], ['h', 't', 't', 'p', 's'], ['f', 't', 'p'], ['w', 's'],
   ['w', 's', 's']]

/-- The host: the authority, or without one the first segment of the path. -/
def host (u : Url) : List Char :=
  if u.authority.isEmpty then (u.path.dropWhile (· == '/')).takeWhile (· != '/')
  else u.authority

/-- An absolute URL without white space, surrounding one apart. A scheme of the web needs a host,
any other scheme needs something after its colon. -/
def accepts (cs : List Char) : Bool :=
  let trimmed := Text.trim cs
  if trimmed.any Text.isBlank then false
  else match split? trimmed with
    | none => false
    | some u =>
      if u.scheme.isEmpty then false
      else if hostSchemes.contains u.scheme then !u.host.isEmpty
      else match splitColon trimmed with
        | (_, some rest) => !rest.isEmpty
        | (_, none) => false

end Url
end FieldRules.Address
