import FieldRules.Text.Letter
import FieldRules.Pattern.Flaw
import FieldRules.Pattern.Tree

/-!
# Pattern — Reader

From the source of a pattern to its tree. The source is read in marks, a
mark being one character or a backslash with the character after it, one
mark ahead; a backslash with nothing after it is refused as soon as it comes
next.
-/

namespace FieldRules.Pattern

/-- Counts of this size and more are refused. -/
def repeatLimit : Nat := 4294967295

/-- Widths are not told apart from here on. -/
def widthLimit : Nat := Nat.pow 2 64

/-- How many characters a part of a pattern can take: at least and at most. -/
structure Width where
  least : Nat
  most : Nat
deriving DecidableEq

namespace Width

def zero : Width := ⟨0, 0⟩
def one : Width := ⟨1, 1⟩

def add (a b : Width) : Width :=
  ⟨Nat.min (a.least + b.least) widthLimit, Nat.min (a.most + b.most) widthLimit⟩

def either (a b : Width) : Width :=
  ⟨Nat.min a.least b.least, Nat.max a.most b.most⟩

def times (w : Width) (min : Nat) : Option Nat → Width
  | some max => ⟨Nat.min (w.least * min) widthLimit, Nat.min (w.most * max) widthLimit⟩
  | none => ⟨Nat.min (w.least * min) widthLimit, if w.most = 0 then 0 else widthLimit⟩

end Width

/-- What a repetition sign may stand after. -/
inductive Repeatability where
  | repeatable
  | anchor
  | repetition
deriving DecidableEq

/-- A part of a pattern as it has been read. -/
structure Piece where
  tree : Tree
  width : Width
  kind : Repeatability := .repeatable

/-- The pieces of a sequence as one. -/
def Piece.sequence (pieces : List Piece) : Piece :=
  match pieces with
  | [] => { tree := .empty, width := .zero }
  | p :: rest =>
    rest.foldl (fun acc q => { tree := .seq acc.tree q.tree, width := acc.width.add q.width })
      { tree := p.tree, width := p.width }

/-- The state of reading. `rest` starts with the next mark, at `position`. Group `i` is the
`i`-th entry of `groups`, with its width once it is closed. -/
structure Progress where
  rest : List Char
  position : Nat := 0
  flags : Flags := {}
  /-- A flag for the whole pattern asks for classes of all scripts. -/
  allScripts : Bool := false
  groups : List (Option Width) := []
  names : List (List Char × Nat) := []
  /-- Inside a look-behind: the number of groups, the whole match included, at its start. -/
  lookBehind : Option Nat := none
  /-- Groups that conditions named by number, with the position of the name. -/
  conditions : List (Nat × Nat) := []
  variableLookBehind : Bool := false

abbrev Reading := StateT Progress (Except Refusal)

namespace Reading

/-! ## Marks -/

/-- Stops with a flaw, placed `back` characters before the next mark. -/
def fail {α : Type} (f : Flaw) (back : Nat) : Reading α := do
  throw (.flaw f (some ((← get).position - back)))

/-- The next mark of a source. -/
def markOf : List Char → Option (List Char)
  | [] => none
  | '\\' :: c :: _ => some ['\\', c]
  | c :: _ => some [c]

/-- The next mark, which stays. -/
def peek : Reading (Option (List Char)) := do
  return markOf (← get).rest

/-- Goes on to `rest` at `position`, unless only a backslash is left there. -/
def moveTo (rest : List Char) (position : Nat) : Reading Unit := do
  modify fun p => { p with rest := rest, position := position }
  if rest = ['\\'] then throw (.flaw .escapeAtEnd (some position))

/-- The next mark, which is taken. -/
def take : Reading (Option (List Char)) := do
  let p ← get
  match markOf p.rest with
  | none => return none
  | some mark =>
    moveTo (p.rest.drop mark.length) (p.position + mark.length)
    return some mark

/-- Takes the next mark if it is the character `c`. -/
def accept (c : Char) : Reading Bool := do
  if (← peek) = some [c] then
    let _ ← take
    return true
  else return false

/-- Takes up to `n` marks that are characters with property `p`. -/
def takeUpTo (p : Char → Bool) : Nat → Reading (List Char)
  | 0 => return []
  | n + 1 => do
    match ← peek with
    | some [c] =>
      if p c then
        let _ ← take
        return c :: (← takeUpTo p n)
      else return []
    | _ => return []

/-- Takes the text before `terminator`, and the terminator; `fuel` exceeds the marks left. -/
def takeUntil (terminator : Char) (what : String) : Nat → List Char → Reading (List Char)
  | 0, _ => fail (.missingName what) 0
  | fuel + 1, found => do
    match ← take with
    | none =>
      if found.isEmpty then fail (.missingName what) 0
      else fail (.unterminatedName terminator) found.length
    | some mark =>
      if mark = [terminator] then
        if found.isEmpty then fail (.missingName what) 1 else return found
      else takeUntil terminator what fuel (found ++ mark)

/-- Takes a name and the character that closes it. -/
def takeName (terminator : Char) (what : String) : Reading (List Char) := do
  takeUntil terminator what ((← get).rest.length + 1) []

/-! ## Escapes -/

/-- What an escape stands for. -/
inductive Escaped where
  | char (code : Nat)
  | category (kind : Category) (negated : Bool)
  | anchor (a : Anchor)
  | reference (index : Nat)

/-- Escapes of control characters, the same inside and outside of sets. -/
def controlEscape? (c : Char) : Option Nat :=
  match c with
  | 'a' => some 7
  | 'f' => some 12
  | 'n' => some 10
  | 'r' => some 13
  | 't' => some 9
  | 'v' => some 11
  | '\\' => some 92
  | _ => none

/-- Escapes of character classes. -/
def categoryEscape? (c : Char) : Option Escaped :=
  match c with
  | 'd' => some (.category .digit false)
  | 'D' => some (.category .digit true)
  | 's' => some (.category .blank false)
  | 'S' => some (.category .blank true)
  | 'w' => some (.category .word false)
  | 'W' => some (.category .word true)
  | _ => none

/-- Escapes of positions. -/
def anchorEscape? (ascii : Bool) (c : Char) : Option Escaped :=
  match c with
  | 'A' => some (.anchor .textStart)
  | 'b' => some (.anchor (.boundary ascii))
  | 'B' => some (.anchor (.notBoundary ascii))
  | 'Z' => some (.anchor .textEnd)
  | _ => none

def isOctal (c : Char) : Bool := '0' ≤ c && c ≤ '7'

/-- A character given by exactly `count` hexadecimal digits after `escape`. -/
def hexEscape (escape : List Char) (count : Nat) : Reading Escaped := do
  let digits ← takeUpTo (Number.isDigitIn 16) count
  let whole := escape ++ digits
  if digits.length ≠ count then fail (.incompleteEscape whole) whole.length
  else
    let code := Number.ofDigits 16 digits
    if code < 0x110000 then return .char code else fail (.badEscape whole) whole.length

/-- A character given by its name. -/
def namedEscape : Reading Escaped := do
  if ← accept '\x7b' then
    let name ← takeName '\x7d' "character name"
    match Text.characterNamed? name with
    | some code => return .char code
    | none => fail (.unknownCharacterName name) (name.length + 4)
  else fail .missingBrace 0

/-- An escape that stands for a character by its code, or for the character itself. -/
def plainEscape (escape : List Char) (c : Char) : Reading Escaped := do
  if c == 'x' then hexEscape escape 2
  else if c == 'u' then hexEscape escape 4
  else if c == 'U' then hexEscape escape 8
  else if c == 'N' then namedEscape
  else if Text.isAsciiLetter c || Text.isAsciiDigit c then fail (.badEscape escape) escape.length
  else return .char c.toNat

/-- A character given by up to three octal digits, of which the first is read. -/
def octalEscape (escape : List Char) (c : Char) : Reading Escaped := do
  let digits := c :: (← takeUpTo isOctal 2)
  let whole := escape.take 1 ++ digits
  let code := Number.ofDigits 8 digits
  if 255 < code then fail (.octalTooLarge whole) whole.length else return .char code

/-- An escape inside a set. -/
def setEscape (escape : List Char) (c : Char) : Reading Escaped := do
  if c == 'b' then return .char 8
  else if let some code := controlEscape? c then return .char code
  else if let some category := categoryEscape? c then return category
  else if isOctal c then octalEscape escape c
  else plainEscape escape c

/-- A reference to a closed group, `back` being the length of its name and what it adds. -/
def checkReference (index : Nat) (back : Nat) : Reading Unit := do
  let p ← get
  match p.groups[index - 1]? with
  | some (some _) => pure ()
  | _ => fail .openGroupReference back

/-- Inside a look-behind only groups closed before it may be named. -/
def checkLookBehind (index : Nat) : Reading Unit := do
  let p ← get
  match p.lookBehind with
  | none => pure ()
  | some limit =>
    match p.groups[index - 1]? with
    | some (some _) => if limit ≤ index then fail .lookBehindGroupReference 0
    | _ => fail .openGroupReference 0

/-- A reference by number, `digits` being its digits. -/
def numberedReference (digits : List Char) : Reading Escaped := do
  let index := Number.ofDigits 10 digits
  if index ≤ (← get).groups.length then
    checkReference index (digits.length + 1)
    checkLookBehind index
    return .reference index
  else fail (.invalidGroupReference index) digits.length

/-- An escape that starts with a digit other than zero: a reference, or three octal digits. -/
def digitEscape (escape : List Char) (c : Char) : Reading Escaped := do
  match ← takeUpTo Text.isAsciiDigit 1 with
  | [d] =>
    if isOctal c && isOctal d then
      match ← takeUpTo isOctal 1 with
      | [e] =>
        let code := Number.ofDigits 8 [c, d, e]
        if 255 < code then fail (.octalTooLarge (escape ++ [d, e])) (escape.length + 2)
        else return .char code
      | _ => numberedReference [c, d]
    else numberedReference [c, d]
  | _ => numberedReference [c]

/-- An escape outside of sets. -/
def escape (whole : List Char) (c : Char) : Reading Escaped := do
  if let some category := categoryEscape? c then return category
  else if let some anchor := anchorEscape? (← get).flags.ascii c then return anchor
  else if let some code := controlEscape? c then return .char code
  else if c == '0' then
    return .char (Number.ofDigits 8 (← takeUpTo isOctal 2))
  else if Text.isAsciiDigit c then digitEscape whole c
  else plainEscape whole c

/-! ## Sets -/

/-- What one mark of a set stands for. -/
def setMember (mark : List Char) : Reading Escaped := do
  match mark with
  | ['\\', c] => setEscape mark c
  | c :: _ => return .char c.toNat
  | [] => return .char 0

def Escaped.toSetItem : Escaped → SetItem
  | .char code => .char code
  | .category kind negated => .category kind negated
  | _ => .char 0

/-- The members of a set up to its closing bracket, which is a member where nothing stands before
it; `start` is the position of the opening bracket and `fuel` exceeds the marks left. -/
def setItems (start : Nat) : Nat → List SetItem → Reading (List SetItem)
  | 0, _ => fail .unterminatedSet 0
  | fuel + 1, found => do
    match ← take with
    | none => fail .unterminatedSet ((← get).position - start)
    | some mark =>
      if mark = [']'] && !found.isEmpty then return found
      else
        let first ← setMember mark
        if ← accept '-' then
          match ← take with
          | none => fail .unterminatedSet ((← get).position - start)
          | some [']'] => return found ++ [first.toSetItem, .char '-'.toNat]
          | some other =>
            let last ← setMember other
            let back := mark.length + 1 + other.length
            match first, last with
            | .char lo, .char hi =>
              if hi < lo then fail (.badRange mark other) back
              else setItems start fuel (found ++ [.range lo hi])
            | _, _ => fail (.badRange mark other) back
        else setItems start fuel (found ++ [first.toSetItem])

/-- A set, after its opening bracket. -/
def readSet : Reading Piece := do
  let start := (← get).position - 1
  let negated ← accept '^'
  let items ← setItems start ((← get).rest.length + 1) []
  return { tree := .set (← get).flags.manner negated items, width := .one }

/-! ## Repetitions -/

/-- The bounds of a repetition. -/
structure Bounds where
  min : Nat
  max : Option Nat

/-- A count between braces; none is written where there are no digits. -/
def readCount (digits : List Char) : Reading (Option Nat) := do
  if digits.isEmpty then return none
  else if Number.digitLimit < digits.length then throw (.excess (.digits digits.length))
  else
    let n := Number.ofDigits 10 digits
    if repeatLimit ≤ n then throw (.excess .magnitude) else return some n

/-- The bounds after an opening brace at `start`; without a closing brace in the right place, and
when nothing stands between the braces, the brace is a character like any other. -/
def readBraces (start : Nat) : Reading (Option Bounds) := do
  if (← peek) = some ['\x7d'] then return none
  else
    let before ← get
    let lo ← takeUpTo Text.isAsciiDigit before.rest.length
    let comma ← accept ','
    let hi ← if comma then takeUpTo Text.isAsciiDigit before.rest.length else pure lo
    if ← accept '\x7d' then
      let min ← readCount lo
      let max ← readCount hi
      match min, max with
      | some m, some n =>
        if n < m then fail .reversedRepeat ((← get).position - start)
        else return some ⟨m, some n⟩
      | _, _ => return some ⟨min.getD 0, max⟩
    else
      moveTo before.rest before.position
      return none

/-- The sign after a repetition, which says how it chooses. -/
def readGreed : Reading Greed := do
  if ← accept '?' then return .lazy
  else if ← accept '+' then return .possessive
  else return .greedy

/-- The last piece, repeated; `start` is the position after the sign. -/
def repeatLast (found : List Piece) (bounds : Bounds) (start : Nat) : Reading (List Piece) := do
  let back := (← get).position - start + 1
  match found.getLast? with
  | none => fail .nothingToRepeat back
  | some last =>
    match last.kind with
    | .anchor => fail .nothingToRepeat back
    | .repetition => fail .multipleRepeat back
    | .repeatable =>
      let greed ← readGreed
      return found.dropLast ++
        [{ tree := .repeated bounds.min bounds.max greed last.tree,
           width := last.width.times bounds.min bounds.max, kind := .repetition }]

/-! ## Flags -/

/-- The flags with those of a letter on or off. Where one script of the classes is asked for, the
other is not. -/
def Flags.put (value : Bool) (f : Flags) (letter : Char) : Flags :=
  match letter with
  | 'i' => { f with ignoreCase := value }
  | 'm' => { f with multiLine := value }
  | 's' => { f with dotAll := value }
  | 'x' => { f with spaced := value }
  | 'a' => { f with ascii := value }
  | 'u' => { f with ascii := !value }
  | _ => f

/-- The letters that are taken for flags. -/
def isFlag (c : Char) : Bool := "iLmsxatu".toList.contains c

/-- The letters of flags for the script of the classes, which cannot be switched off. -/
def isScriptFlag (c : Char) : Bool := "aLu".toList.contains c

/-- The letter of a flag without a meaning, which may stand for the whole pattern only. -/
def globalFlag : Char := 't'

def isLetterMark (mark : List Char) : Bool :=
  match mark with
  | [c] => Text.isName [c] && c != '_'
  | _ => false

/-- The next letter of flags, or the sign that ends them; `what` may stand there. -/
def flagMark (what : String) (ends : List Char) : Reading Char := do
  match ← take with
  | none => fail (.missingAfterFlags what) 0
  | some [c] =>
    if isFlag c || ends.contains c then return c
    else fail (if isLetterMark [c] then .unknownFlag else .missingAfterFlags what) 1
  | some mark => fail (.missingAfterFlags what) mark.length

/-- The letters that switch flags off, from `c` up to the colon; `found` stand before it. -/
def flagsOff : Nat → List Char → Char → Reading (List Char)
  | 0, _, _ => fail (.missingAfterFlags ":") 0
  | fuel + 1, found, c => do
    if isScriptFlag c then fail (.forbiddenFlags "cannot turn off flags 'a', 'u' and 'L'") 0
    else
      let next ← flagMark ":" [':']
      if next == ':' then return found ++ [c] else flagsOff fuel (found ++ [c]) next

/-- The letters that switch flags on, from `c` up to the sign that ends them, and this sign. -/
def flagsOn : Nat → List Char → Char → Reading (List Char × Char)
  | 0, _, _ => fail (.missingAfterFlags "-, : or )") 0
  | fuel + 1, found, c => do
    if c == 'L' then fail (.forbiddenFlags "cannot use 'L' flag with a str pattern") 0
    else if isScriptFlag c && (found.any fun d => isScriptFlag d && d != c) then
      fail (.forbiddenFlags "flags 'a', 'u' and 'L' are incompatible") 0
    else
      let next ← flagMark "-, : or )" [')', ':', '-']
      if isFlag next then flagsOn fuel (found ++ [c]) next else return (found ++ [c], next)

/-! ## Groups -/

/-- Opens the next group under an optional name. -/
def openGroup (name : Option (List Char)) : Reading Nat := do
  let p ← get
  let index := p.groups.length + 1
  match name with
  | none =>
    set { p with groups := p.groups ++ [none] }
    return index
  | some n =>
    match p.names.lookup n with
    | some old => fail (.redefinedGroup n index old) (n.length + 1)
    | none =>
      set { p with groups := p.groups ++ [none], names := p.names ++ [(n, index)] }
      return index

def closeGroup (index : Nat) (w : Width) : Reading Unit :=
  modify fun p => { p with groups := p.groups.set (index - 1) (some w) }

/-- The closing parenthesis of a group that opened at `start`. -/
def expectClose (start : Nat) : Reading Unit := do
  if ← accept ')' then pure ()
  else fail .unterminatedGroup ((← get).position - start)

/-- A name that has been read, with the terminator after it. -/
def checkName (name : List Char) : Reading Unit := do
  if Text.isName name then pure () else fail (.badGroupName name) (name.length + 1)

/-- A reference to a group by name. -/
def namedReference : Reading Piece := do
  let name ← takeName ')' "group name"
  checkName name
  let p ← get
  match p.names.lookup name with
  | none => fail (.unknownGroupName name) (name.length + 1)
  | some index =>
    checkReference index (name.length + 1)
    checkLookBehind index
    let w := ((p.groups[index - 1]?).getD none).getD .zero
    return { tree := .sameAs index p.flags.manner, width := w }

/-- The group that a condition names, by name or by number. -/
def conditionGroup : Reading Nat := do
  let name ← takeName ')' "group name"
  if Text.isName name then
    match (← get).names.lookup name with
    | none => fail (.unknownGroupName name) (name.length + 1)
    | some index => return index
  else if !name.isEmpty && name.all Text.isAsciiDigit && name.length ≤ Number.digitLimit then
    let index := Number.ofDigits 10 name
    if index = 0 then fail .badGroupNumber (name.length + 1)
    else if 1073741823 ≤ index then fail (.invalidGroupReference index) (name.length + 1)
    else
      modify fun p =>
        if (p.conditions.lookup index).isSome then p
        else { p with conditions := p.conditions ++ [(index, p.position - name.length - 1)] }
      return index
  else fail (.badGroupName name) (name.length + 1)

/-- A comment up to its closing parenthesis. -/
def skipComment (start : Nat) : Nat → Reading Unit
  | 0 => fail .unterminatedComment 0
  | fuel + 1 => do
    match ← take with
    | none => fail .unterminatedComment ((← get).position - start)
    | some [')'] => pure ()
    | some _ => skipComment start fuel

/-- The rest of a line, in a spaced pattern. -/
def skipLine : Nat → Reading Unit
  | 0 => pure ()
  | fuel + 1 => do
    match ← take with
    | none => pure ()
    | some ['\n'] => pure ()
    | some _ => skipLine fuel

/-- What a group is, once its opening has been read. -/
inductive Opening where
  | capture (name : Option (List Char))
  | plain
  | atomic
  | flagged (flags : Flags)
  | lookAhead (negated : Bool)
  | lookBehind (negated : Bool)
  | condition (index : Nat)
  | piece (p : Piece)
  | nothing

/-- The opening of a look-behind, after its angle bracket. -/
def lookBehindOpening : Reading Opening := do
  match ← take with
  | none => fail .unexpectedEnd 0
  | some ['='] => return .lookBehind false
  | some ['!'] => return .lookBehind true
  | some mark => fail (.unknownExtension ('<' :: mark)) (mark.length + 2)

/-- The opening of a named group or reference, after its letter. -/
def namedOpening : Reading Opening := do
  if ← accept '<' then
    let name ← takeName '>' "group name"
    checkName name
    return .capture (some name)
  else if ← accept '=' then return .piece (← namedReference)
  else match ← take with
    | none => fail .unexpectedEnd 0
    | some mark => fail (.unknownExtension ('P' :: mark)) (mark.length + 2)

/-- The opening with flags, from the letter or minus sign `c` on. Flags for the whole pattern may
stand only where nothing has been read. -/
def flagOpening (c : Char) (start : Nat) (first : Bool) : Reading Opening := do
  let fuel := (← get).rest.length + 1
  let (on, sign) ← if c == '-' then pure ([], '-') else flagsOn fuel [] c
  if sign == ')' then
    modify fun p =>
      { p with
        flags := (on.filter (· != 'u')).foldl (Flags.put true) p.flags
        allScripts := p.allScripts || on.contains 'u' }
    if first then return .nothing
    else fail .misplacedFlags ((← get).position - start)
  else if on.contains globalFlag then fail (.forbiddenFlags "cannot turn on global flag") 1
  else
    let off ←
      if sign == '-' then do flagsOff fuel [] (← flagMark "flag" [])
      else pure []
    if off.contains globalFlag then fail (.forbiddenFlags "cannot turn off global flag") 1
    else if on.any off.contains then fail (.forbiddenFlags "flag turned on and off") 1
    else return .flagged (off.foldl (Flags.put false) (on.foldl (Flags.put true) (← get).flags))

/-- The opening of a group whose parenthesis stands at `start`; `first` says that nothing of the
pattern has been read before it. -/
def groupOpening (start : Nat) (first : Bool) : Reading Opening := do
  if ← accept '?' then
    match ← take with
    | none => fail .unexpectedEnd 0
    | some ['P'] => namedOpening
    | some [':'] => return .plain
    | some ['#'] =>
      skipComment start ((← get).rest.length + 1)
      return .nothing
    | some ['='] => return .lookAhead false
    | some ['!'] => return .lookAhead true
    | some ['<'] => lookBehindOpening
    | some ['('] => return .condition (← conditionGroup)
    | some ['>'] => return .atomic
    | some [c] =>
      if isFlag c || c == '-' then flagOpening c start first
      else fail (.unknownExtension [c]) 2
    | some mark => fail (.unknownExtension mark) (mark.length + 1)
  else return .capture none

/-! ## Expressions -/

/-- The piece that an escape is. -/
def escapedPiece (e : Escaped) : Reading Piece := do
  let p ← get
  let single (item : SetItem) : Piece :=
    { tree := .set p.flags.manner false [item], width := .one }
  match e with
  | .char code => return single (.char code)
  | .category kind negated => return single (.category kind negated)
  | .anchor a => return { tree := .anchor a, width := .zero, kind := .anchor }
  | .reference index =>
    let w := ((p.groups[index - 1]?).getD none).getD .zero
    return { tree := .sameAs index p.flags.manner, width := w }

/-- The piece that a character is when it has no other meaning. -/
def literalPiece (flags : Flags) (c : Char) : Piece :=
  { tree := .set flags.manner false [.char c.toNat], width := .one }

/-- The anchors for the start and the end of the text or of a line. -/
def startPiece (flags : Flags) : Piece :=
  { tree := .anchor (if flags.multiLine then .lineStart else .textStart),
    width := .zero, kind := .anchor }

def endPiece (flags : Flags) : Piece :=
  { tree := .anchor (if flags.multiLine then .lineEnd else .lastLineEnd),
    width := .zero, kind := .anchor }

mutual

/-- Alternatives up to a closing parenthesis or the end; `top` says that they are the whole
pattern. -/
def alternatives : Nat → Bool → Reading Piece
  | 0, _ => fail .unbalancedParenthesis 0
  | fuel + 1, top => do
    let first ← sequence fuel top []
    otherAlternatives fuel first

/-- Further alternatives after `found`, as long as a bar follows. -/
def otherAlternatives : Nat → Piece → Reading Piece
  | 0, _ => fail .unbalancedParenthesis 0
  | fuel + 1, found => do
    if ← accept '|' then
      let next ← sequence fuel false []
      let rest ← otherAlternatives fuel next
      return { tree := .either found.tree rest.tree, width := found.width.either rest.width }
    else return found

/-- One alternative, of which `found` has been read; `first` says that nothing of the pattern
stands before it. -/
def sequence : Nat → Bool → List Piece → Reading Piece
  | 0, _, _ => fail .unbalancedParenthesis 0
  | fuel + 1, first, found => do
    match ← peek with
    | none => return .sequence found
    | some ['|'] => return .sequence found
    | some [')'] => return .sequence found
    | some mark =>
      let _ ← take
      let p ← get
      match mark with
      | ['\\', c] =>
        let e ← escape mark c
        sequence fuel first (found ++ [← escapedPiece e])
      | ['['] => sequence fuel first (found ++ [← readSet])
      | ['.'] =>
        sequence fuel first (found ++ [{ tree := .any p.flags.dotAll, width := .one }])
      | ['^'] => sequence fuel first (found ++ [startPiece p.flags])
      | ['$'] => sequence fuel first (found ++ [endPiece p.flags])
      | ['?'] => sequence fuel first (← repeatLast found ⟨0, some 1⟩ p.position)
      | ['*'] => sequence fuel first (← repeatLast found ⟨0, none⟩ p.position)
      | ['+'] => sequence fuel first (← repeatLast found ⟨1, none⟩ p.position)
      | ['\x7b'] =>
        match ← readBraces p.position with
        | none => sequence fuel first (found ++ [literalPiece p.flags '\x7b'])
        | some bounds => sequence fuel first (← repeatLast found bounds p.position)
      | ['('] =>
        let start := p.position - 1
        let opening ← groupOpening start (first && found.isEmpty)
        match ← group fuel start opening with
        | none => sequence fuel first found
        | some piece => sequence fuel first (found ++ [piece])
      | c :: _ =>
        if p.flags.spaced && " \t\n\r\x0b\x0c".toList.contains c then sequence fuel first found
        else if p.flags.spaced && c == '#' then
          skipLine (p.rest.length + 1)
          sequence fuel first found
        else sequence fuel first (found ++ [literalPiece p.flags c])
      | [] => return .sequence found

/-- The contents and the end of a group that opened at `start`. -/
def group : Nat → Nat → Opening → Reading (Option Piece)
  | 0, _, _ => fail .unbalancedParenthesis 0
  | fuel + 1, start, opening => do
    match opening with
    | .nothing => return none
    | .piece p => return some p
    | .plain =>
      let body ← alternatives fuel false
      expectClose start
      return some { tree := body.tree, width := body.width }
    | .atomic =>
      let body ← alternatives fuel false
      expectClose start
      return some { tree := .atomic body.tree, width := body.width }
    | .flagged flags =>
      let outer := (← get).flags
      modify fun p => { p with flags := flags }
      let body ← alternatives fuel false
      expectClose start
      modify fun p => { p with flags := outer }
      return some { tree := body.tree, width := body.width }
    | .capture name =>
      let index ← openGroup name
      let body ← alternatives fuel false
      expectClose start
      closeGroup index body.width
      return some { tree := .group index body.tree, width := body.width }
    | .lookAhead negated =>
      let body ← alternatives fuel false
      expectClose start
      return some { tree := .lookAhead negated body.tree, width := .zero }
    | .lookBehind negated =>
      let outer := (← get).lookBehind
      modify fun p => { p with lookBehind := some (outer.getD (p.groups.length + 1)) }
      let body ← alternatives fuel false
      modify fun p =>
        { p with
          lookBehind := outer
          variableLookBehind := p.variableLookBehind || body.width.least != body.width.most }
      expectClose start
      return some { tree := .lookBehind negated body.width.least body.tree, width := .zero }
    | .condition index =>
      checkLookBehind index
      let yes ← sequence fuel false []
      let no ←
        if ← accept '|' then do
          let other ← sequence fuel false []
          if (← peek) = some ['|'] then fail .tooManyBranches 0
          pure other
        else pure { tree := .empty, width := .zero }
      expectClose start
      return some { tree := .ifGroup index yes.tree no.tree, width := yes.width.either no.width }

end

/-- A whole pattern. Its flags ask for one script of the classes at most, conditions must name
groups that exist, and look-behinds have one width. -/
def whole : Reading Tree := do
  let p ← get
  moveTo p.rest p.position
  let piece ← alternatives (3 * p.rest.length + 4) true
  let q ← get
  if q.flags.ascii && q.allScripts then throw .scriptClash
  match ← peek with
  | some _ => fail .unbalancedParenthesis 0
  | none =>
    match q.conditions.find? fun c => q.groups.length < c.1 with
    | some (index, position) => throw (.flaw (.invalidGroupReference index) (some position))
    | none =>
      if q.variableLookBehind then throw (.flaw .variableLookBehind none)
      else return piece.tree

end Reading

/-- The tree of a pattern and its options, from its source. -/
def readTree (source : List Char) : Except Refusal (Tree × Flags) :=
  match Reading.whole.run { rest := source } with
  | .ok (tree, p) => .ok (tree, p.flags)
  | .error refusal => .error refusal

end FieldRules.Pattern
