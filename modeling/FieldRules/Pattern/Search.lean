import FieldRules.Text.Blank
import FieldRules.Text.Letter
import FieldRules.Pattern.Tree

/-!
# Pattern — Search

Searching a text for a pattern. The leftmost alternative comes first and a
greedy repetition takes as much as it can; what follows is tried on each
choice in turn, so the first choice that lets everything follow wins.
-/

namespace FieldRules.Pattern

/-! ## Characters -/

/-- Code points that a run maps to `n`. -/
def caseSource? (n : Nat) (run : Text.CaseRun) : Option Nat :=
  let m := ((n : Int) - run.shift).toNat
  if run.image? m = some n then some m else none

namespace Manner

/-- The code point by which `n` is compared where case does not count: its lower-case form, among
the letters of ASCII alone or of all scripts. The dotted capital I loses its dot. -/
def fold (m : Manner) (n : Nat) : Nat :=
  if m.ascii then (if 65 ≤ n && n ≤ 90 then n + 32 else n)
  else if n == 0x130 then 0x69
  else Text.lowerCode n

/-- All code points that differ from `n` in case only. -/
def caseVariants (m : Manner) (n : Nat) : List Nat :=
  let lower := m.fold n
  if m.ascii then lower :: (if 97 ≤ lower && lower ≤ 122 then [lower - 32] else [])
  else
    let twins := lower :: (Text.lowerTwins.lookup lower).getD []
    let dotted := if twins.contains 0x69 then [0x130] else []
    dotted ++ twins ++ twins.flatMap fun t => Text.lowerRuns.filterMap (caseSource? t)

/-- The code points that a character stands for. -/
def codes (m : Manner) (c : Char) : List Nat :=
  if m.ignoreCase then m.caseVariants c.toNat else [c.toNat]

/-- Two characters count as the same. -/
def same (m : Manner) (a b : Char) : Bool :=
  if m.ignoreCase then m.fold a.toNat == m.fold b.toNat else a == b

end Manner

/-- Membership in a class. -/
def Category.holds (ascii : Bool) : Category → Char → Bool
  | .digit, c => if ascii then Text.isAsciiDigit c else Text.isDigit c
  | .blank, c => Text.isBlank c && (!ascii || c == ' ' || (9 ≤ c.toNat && c.toNat ≤ 13))
  | .word, c => Text.isWord c && (!ascii || c.toNat < 128)

/-- Membership of a character in one part of a set, by the code points that it stands for. Classes
look at the character itself. -/
def SetItem.holds (ascii : Bool) (c : Char) (codes : List Nat) : SetItem → Bool
  | .char code => codes.contains code
  | .range first last => codes.any fun n => first ≤ n && n ≤ last
  | .category kind negated => kind.holds ascii c != negated

/-- Membership of a character in a set, before negation. -/
def inSet (manner : Manner) (items : List SetItem) (c : Char) : Bool :=
  let codes := manner.codes c
  items.any fun item => item.holds manner.ascii c codes

/-! ## Positions -/

/-- A position in a text: what stands before it, nearest first, and what stands after it, with
the texts of the groups closed so far, newest first. -/
structure Cursor where
  before : List Char := []
  after : List Char
  offset : Nat := 0
  groups : List (Nat × List Char) := []

namespace Cursor

/-- One character further. -/
def next? (s : Cursor) : Option (Char × Cursor) :=
  match s.after with
  | [] => none
  | c :: cs => some (c, { s with before := c :: s.before, after := cs, offset := s.offset + 1 })

/-- `n` characters back. -/
def back? : Nat → Cursor → Option Cursor
  | 0, s => some s
  | n + 1, s =>
    match s.before with
    | [] => none
    | c :: cs => back? n { s with before := cs, after := c :: s.after, offset := s.offset - 1 }

/-- Past `expected`, if that is what follows. -/
def past? (manner : Manner) : List Char → Cursor → Option Cursor
  | [], s => some s
  | e :: es, s =>
    match s.next? with
    | none => none
    | some (c, s') => if manner.same c e then past? manner es s' else none

/-- Notes the text since `start` as the text of a group. -/
def close (index start : Nat) (s : Cursor) : Cursor :=
  { s with groups := (index, (s.before.take (s.offset - start)).reverse) :: s.groups }

/-- A word character stands next to the position on one side alone. -/
def atBoundary (ascii : Bool) (s : Cursor) : Bool :=
  let isWord (c : Option Char) : Bool :=
    match c with
    | some c => Category.word.holds ascii c
    | none => false
  isWord s.before.head? != isWord s.after.head?

end Cursor

/-- The condition that an anchor sets. The empty text has no boundary and no place without one. -/
def Anchor.holds (s : Cursor) : Anchor → Bool
  | .textStart => s.before.isEmpty
  | .textEnd => s.after.isEmpty
  | .lineStart => s.before.isEmpty || s.before.head? == some '\n'
  | .lineEnd => s.after.isEmpty || s.after.head? == some '\n'
  | .lastLineEnd => s.after.isEmpty || s.after == ['\n']
  | .boundary ascii => !(s.before.isEmpty && s.after.isEmpty) && s.atBoundary ascii
  | .notBoundary ascii => !(s.before.isEmpty && s.after.isEmpty) && !s.atBoundary ascii

/-! ## Matching -/

/-- What has to follow a match: the end of the whole match, if it can be reached. -/
abbrev Follow := Cursor → Option Cursor

/-- As many rounds of `body` as possible first, then `follow`. Rounds beyond the least number
start only where the round before has moved; `fuel` exceeds the rounds that can be made. -/
def repeatGreedy (body : Follow → Follow) (min : Nat) (max : Option Nat) (follow : Follow) :
    Nat → Nat → Option Nat → Follow
  | 0, _, _, _ => none
  | fuel + 1, count, last, s =>
    if count < min then body (repeatGreedy body min max follow fuel (count + 1) last) s
    else
      let more := (max.all fun m => count < m) && last != some s.offset
      if more then
        body (repeatGreedy body min max follow fuel (count + 1) (some s.offset)) s <|> follow s
      else follow s

/-- As few rounds of `body` as possible first. -/
def repeatLazy (body : Follow → Follow) (min : Nat) (max : Option Nat) (follow : Follow) :
    Nat → Nat → Option Nat → Follow
  | 0, _, _, _ => none
  | fuel + 1, count, last, s =>
    if count < min then body (repeatLazy body min max follow fuel (count + 1) last) s
    else
      let more := (max.all fun m => count < m) && last != some s.offset
      follow s <|>
        if more then body (repeatLazy body min max follow fuel (count + 1) (some s.offset)) s
        else none

/-- The end of the first way to match a tree at a position so that `follow` succeeds. -/
def Tree.run : Tree → Follow → Follow
  | .empty, follow, s => follow s
  | .any newlines, follow, s =>
    match s.next? with
    | some (c, s') => if newlines || c != '\n' then follow s' else none
    | none => none
  | .set manner negated items, follow, s =>
    match s.next? with
    | some (c, s') => if inSet manner items c != negated then follow s' else none
    | none => none
  | .anchor a, follow, s => if a.holds s then follow s else none
  | .seq first second, follow, s => first.run (second.run follow) s
  | .either left right, follow, s => left.run follow s <|> right.run follow s
  | .group index body, follow, s => body.run (fun s' => follow (s'.close index s.offset)) s
  | .sameAs index manner, follow, s =>
    match s.groups.lookup index with
    | some text =>
      match s.past? manner text with
      | some s' => follow s'
      | none => none
    | none => none
  | .repeated min max greed body, follow, s =>
    let fuel := min + s.after.length + 2
    match greed with
    | .greedy => repeatGreedy (fun k t => body.run k t) min max follow fuel 0 none s
    | .lazy => repeatLazy (fun k t => body.run k t) min max follow fuel 0 none s
    | .possessive =>
      match repeatGreedy (fun k t => body.run k t) min max some fuel 0 none s with
      | some s' => follow s'
      | none => none
  | .lookAhead negated body, follow, s =>
    match body.run some s with
    | some found => if negated then none else follow { s with groups := found.groups }
    | none => if negated then follow s else none
  | .lookBehind negated width body, follow, s =>
    match (s.back? width).bind fun t => body.run some t with
    | some found => if negated then none else follow { s with groups := found.groups }
    | none => if negated then follow s else none
  | .atomic body, follow, s =>
    match body.run some s with
    | some s' => follow s'
    | none => none
  | .ifGroup index yes no, follow, s =>
    if (s.groups.lookup index).isSome then yes.run follow s else no.run follow s

/-- A match at the position or at a later one. -/
def Tree.searchFrom (t : Tree) (before : List Char) (offset : Nat) : List Char → Bool
  | [] => (t.run some { before := before, after := [], offset := offset }).isSome
  | c :: cs =>
    (t.run some { before := before, after := c :: cs, offset := offset }).isSome ||
      t.searchFrom (c :: before) (offset + 1) cs

/-- A match somewhere in the text. -/
def Tree.foundIn (t : Tree) (cs : List Char) : Bool :=
  t.searchFrom [] 0 cs

end FieldRules.Pattern
