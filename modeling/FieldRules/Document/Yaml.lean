import FieldRules.Number.Literal
import FieldRules.Value.Dict

/-!
# Document — Yaml

A small reader for YAML: lists and mappings by indentation, with plain or
quoted scalars on one line. Other forms are refused. Commands take any reader
(`Document.Store.yaml`); this one is what the program runs with.
-/

namespace FieldRules.Yaml

/-! ## Lines -/

/-- A line with something on it, and how far it is indented. -/
structure Line where
  indent : Nat
  text : List Char

/-- The text before a comment, which follows a space. -/
def dropComment : Bool → List Char → List Char
  | _, [] => []
  | afterSpace, c :: cs =>
    if afterSpace && c == '#' then [] else c :: dropComment (c == ' ' || c == '\t') cs

/-- The line, unless nothing but a comment is on it. -/
def lineOf? (cs : List Char) : Option Line :=
  let spaces := (cs.takeWhile (· == ' ')).length
  let body := cs.drop spaces
  let quotedStart := body.head? == some '"' || body.head? == some '\''
  let text := Text.trimEnd (if quotedStart then body else dropComment true body)
  if text.isEmpty || text == ['-', '-', '-'] then none else some ⟨spaces, text⟩

def linesOf (cs : List Char) : List Line :=
  (Text.splitOn (· == '\n') cs).filterMap lineOf?

/-! ## Scalars -/

def nullWords : List String := ["", "~", "null", "Null", "NULL"]

def trueWords : List String :=
  ["yes", "Yes", "YES", "true", "True", "TRUE", "on", "On", "ON"]

def falseWords : List String :=
  ["no", "No", "NO", "false", "False", "FALSE", "off", "Off", "OFF"]

/-- A decimal integer, with an optional sign and no leading zero. -/
def integer? (cs : List Char) : Option Int :=
  let (negative, digits) := Number.Literal.readSign cs
  if digits.isEmpty || !digits.all (Number.isDigitIn 10) then none
  else if digits.head? == some '0' && digits.length != 1 then none
  else
    let n : Int := ((Number.ofDigits 10 digits : Nat) : Int)
    some (if negative then -n else n)

/-- A decimal with a point after its first digits. -/
def decimal? (cs : List Char) : Option Number.Double :=
  match Number.Literal.readDecimal? cs with
  | some (.decimal negative (d :: whole) fraction exponent) =>
    if cs.contains '.' then
      some (Number.Decimal.toDouble negative
        ⟨Number.ofDigits 10 (d :: whole ++ fraction), exponent - fraction.length⟩)
    else none
  | _ => none

/-- What a plain scalar stands for. -/
def plainScalar (cs : List Char) : Value :=
  let s := String.ofList cs
  if nullWords.contains s then .null
  else if trueWords.contains s then .bool true
  else if falseWords.contains s then .bool false
  else match integer? cs with
    | some n => .int n
    | none =>
      match decimal? cs with
      | some x => .float x
      | none => .text s

/-- The text between single quotes, where a quote is written twice; `none` unless the closing quote
ends the line. -/
def singleQuoted : List Char → Option (List Char)
  | ['\''] => some []
  | '\'' :: '\'' :: cs => (singleQuoted cs).map ('\'' :: ·)
  | c :: cs => if c == '\'' then none else (singleQuoted cs).map (c :: ·)
  | [] => none

/-- The text between double quotes, with the common escapes. -/
def doubleQuoted : List Char → Option (List Char)
  | ['"'] => some []
  | '\\' :: c :: cs =>
    match c with
    | 'n' => (doubleQuoted cs).map ('\n' :: ·)
    | 't' => (doubleQuoted cs).map ('\t' :: ·)
    | '"' => (doubleQuoted cs).map ('"' :: ·)
    | '\\' => (doubleQuoted cs).map ('\\' :: ·)
    | _ => none
  | c :: cs => if c == '"' then none else (doubleQuoted cs).map (c :: ·)
  | [] => none

/-- Signs that open forms other than plain scalars. -/
def isIndicator (c : Char) : Bool :=
  "[]\x7b\x7d&*!|>%@\x60".toList.contains c

/-- A scalar that takes the rest of a line. -/
def scalar? (cs : List Char) : Option Value :=
  match cs with
  | '\'' :: rest => (singleQuoted rest).map fun s => .text (String.ofList s)
  | '"' :: rest => (doubleQuoted rest).map fun s => .text (String.ofList s)
  | c :: _ => if isIndicator c then none else some (plainScalar cs)
  | [] => some .null

/-! ## Blocks -/

/-- The content of a list item, and how far it stands inside the line. -/
def item? (cs : List Char) : Option (Nat × List Char) :=
  match cs with
  | ['-'] => some (1, [])
  | '-' :: ' ' :: rest =>
    let spaces := (rest.takeWhile (· == ' ')).length
    some (2 + spaces, rest.drop spaces)
  | _ => none

/-- The key and the content of a mapping entry, split at a colon that ends the line or has a space
after it. -/
def splitMapping? : List Char → Option (List Char × List Char)
  | [] => none
  | [':'] => some ([], [])
  | ':' :: ' ' :: rest => some ([], rest.dropWhile (· == ' '))
  | c :: cs => (splitMapping? cs).map fun e => (c :: e.1, e.2)

def unsupported {α : Type} : Except String α :=
  .error "unsupported document"

/-- The lines that stand further in than `indent`, or at it when they go on with a list. -/
def isInside (indent : Nat) (listToo : Bool) (l : Line) : Bool :=
  indent < l.indent || (listToo && l.indent == indent && (item? l.text).isSome)

mutual

/-- The value of a block, which starts with its first line, and the lines after it. -/
def readBlock : Nat → List Line → Except String (Value × List Line)
  | 0, _ => unsupported
  | _ + 1, [] => .ok (.null, [])
  | fuel + 1, l :: rest =>
    if (item? l.text).isSome then readItems fuel l.indent (l :: rest) []
    else if (splitMapping? l.text).isSome then readEntries fuel l.indent (l :: rest) []
    else match scalar? l.text with
      | some v => .ok (v, rest)
      | none => unsupported

/-- The items of a list at an indentation. -/
def readItems : Nat → Nat → List Line → List Value → Except String (Value × List Line)
  | 0, _, _, _ => unsupported
  | _ + 1, _, [], found => .ok (.list found.reverse, [])
  | fuel + 1, indent, l :: rest, found =>
    if l.indent != indent then
      if l.indent < indent then .ok (.list found.reverse, l :: rest) else unsupported
    else match item? l.text with
      | none => .ok (.list found.reverse, l :: rest)
      | some (_, []) =>
        match rest with
        | next :: _ =>
          if isInside indent false next then do
            let (v, after) ← readBlock fuel rest
            readItems fuel indent after (v :: found)
          else readItems fuel indent rest (.null :: found)
        | [] => .ok (.list (.null :: found).reverse, [])
      | some (offset, content) => do
        let (v, after) ← readBlock fuel (⟨indent + offset, content⟩ :: rest)
        readItems fuel indent after (v :: found)

/-- The entries of a mapping at an indentation. -/
def readEntries : Nat → Nat → List Line → Dict → Except String (Value × List Line)
  | 0, _, _, _ => unsupported
  | _ + 1, _, [], found => .ok (.dict found, [])
  | fuel + 1, indent, l :: rest, found =>
    if l.indent != indent then
      if l.indent < indent then .ok (.dict found, l :: rest) else unsupported
    else match splitMapping? l.text with
      | none => unsupported
      | some (key, []) =>
        match scalar? (Text.trimEnd key), rest with
        | some k, next :: _ =>
          if isInside indent true next then do
            let (v, after) ← readBlock fuel rest
            readEntries fuel indent after (found.insert k v)
          else readEntries fuel indent rest (found.insert k .null)
        | some k, [] => .ok (.dict (found.insert k .null), [])
        | none, _ => unsupported
      | some (key, content) =>
        match scalar? (Text.trimEnd key), scalar? content with
        | some k, some v => readEntries fuel indent rest (found.insert k v)
        | _, _ => unsupported

end

/-- The value that a document holds; an empty document holds `null`. -/
def parse (source : String) : Except String Value := do
  let lines := linesOf source.toList
  let (v, rest) ← readBlock (3 * lines.length + source.length + 3) lines
  if rest.isEmpty then return v else unsupported

end FieldRules.Yaml
