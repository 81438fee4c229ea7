import FieldRules.Markup.Escape
import FieldRules.Value.Dict

/-!
# Markup — Tag

Attributes and opening tags. An attribute that is `true` is a bare name, one
that is `false` or `null` is left out, and any other has its text in double
quotes. `attributes` writes any attributes; `attributes?` refuses those with
an integer too long to be written.
-/

namespace FieldRules.Markup

/-- One attribute, if it is written at all. -/
def attribute? (key value : Value) : Option String :=
  match value with
  | .null => none
  | .bool false => none
  | .bool true => some (escape key)
  | v => some (escape key ++ "=\"" ++ escape v ++ "\"")

/-- The attributes that are written, separated by spaces. -/
def attributes (attrs : Dict) : String :=
  Text.joinWith " " (attrs.filterMap fun e => attribute? e.1 e.2)

/-- No integer in the attributes that are written is too long. -/
def areWritable (attrs : Dict) : Bool :=
  Value.entriesWritable (attrs.filter fun e => (attribute? e.1 e.2).isSome)

/-- `attributes` that can be written. -/
def attributes? (attrs : Dict) : Except Fault String := do
  requireWritable (areWritable attrs)
  return attributes attrs

/-- An opening tag. -/
def tag (name : String) (attrs : Dict) : String :=
  let written := attributes attrs
  if written.isEmpty then "<" ++ name ++ ">" else "<" ++ name ++ " " ++ written ++ ">"

/-- An element with text inside. -/
def element (name : String) (attrs : Dict) (content : Value) : String :=
  tag name attrs ++ escape content ++ "</" ++ name ++ ">"

/-- A text as an attribute's value, left out when it is empty. -/
def textOrNull (s : String) : Value :=
  if s.isEmpty then .null else .text s

/-- Class names, trimmed and joined, the empty ones left out. A name that counts as given has to
be a text. -/
def joinClasses : List Value → Except Fault String
  | names => do return Text.joinWith " " (← trimmed names)
where
  trimmed : List Value → Except Fault (List String)
    | [] => .ok []
    | v :: rest =>
      if v.truthy then
        match v with
        | .text s => do
          let others ← trimmed rest
          let name := Text.trimString s
          return if name.isEmpty then others else name :: others
        | _ => .error .notText
      else trimmed rest

end FieldRules.Markup
