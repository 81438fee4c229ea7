import FieldRules.Document.Json
import FieldRules.Fault
import FieldRules.Text.Letter

/-!
# Document — Load

Documents from files. A path ending in `.json` names a JSON document, any
other a YAML document, which a library reads that is no part of this one.
-/

namespace FieldRules.Document

/-! ## Paths -/

/-- The names on a path, those that lead nowhere left out. -/
def pathNames (path : List Char) : List (List Char) :=
  (Text.splitOn (· == '/') path).filter fun name => !name.isEmpty && name != ['.']

/-- The slashes that make a path absolute: two, where exactly two stand in front, or one. -/
def pathRoot (path : List Char) : String :=
  match (path.takeWhile (· == '/')).length with
  | 0 => ""
  | 2 => "//"
  | _ => "/"

/-- The shortest spelling of a path. -/
def normalPath (path : String) : String :=
  let root := pathRoot path.toList
  let body := Text.joinWith "/" ((pathNames path.toList).map String.ofList)
  if root.isEmpty && body.isEmpty then "." else root ++ body

/-- The ending of a file's name from its last point on; a point at either end makes none. -/
def suffix (path : String) : String :=
  match (pathNames path.toList).getLast? with
  | none => ""
  | some name =>
    let ending := (name.reverse.takeWhile (· != '.')).reverse
    if ending.isEmpty || name.length ≤ ending.length + 1 then ""
    else String.ofList ('.' :: ending)

/-! ## Files -/

/-- What is found under a path. -/
inductive FileState where
  | contents (text : String)
  | directory
  | missing
  /-- The path goes on behind a file. -/
  | behindFile
  /-- There is a file, but no text comes from it, for a reason that the system gives. -/
  | unreadable (message : String)

/-- What is found under each path. -/
abbrev Files := String → FileState

/-- Why a library reads no value from a text: for a reason that it gives, or because it breaks
off. -/
inductive Misread where
  | worded (message : String)
  | wordless

/-- Where documents come from, and what decides on their values besides the program. -/
structure Store where
  files : Files
  /-- The value of a YAML document. -/
  yaml : String → Except Misread Value
  /-- What stands for half of a pair of units, which is no character. -/
  half : Nat → Char

/-- Line ends of all kinds as newlines. -/
def unifyLines : List Char → List Char
  | '\r' :: '\n' :: cs => '\n' :: unifyLines cs
  | '\r' :: cs => '\n' :: unifyLines cs
  | c :: cs => c :: unifyLines cs
  | [] => []

def systemError (number : Nat) (what path : String) : Fault :=
  .unreadableDocument
    ("[Errno " ++ toString number ++ "] " ++ what ++ ": " ++ Text.quotedString path)

def Misread.fault : Misread → Fault
  | .worded message => .refusal message
  | .wordless => .breakdown

/-- The value of a document in the form that its path implies. -/
def parse (store : Store) (path text : String) : Except Fault Value :=
  let unified := String.ofList (unifyLines text.toList)
  if Text.lowerString (suffix path) == ".json" then
    match Json.parse store.half unified with
    | .ok v => .ok v
    | .error message => .error (.unreadableDocument message)
  else match store.yaml unified with
    | .ok v => .ok v
    | .error misread => .error misread.fault

/-- The value of the document under a path. -/
def load (store : Store) (path : String) : Except Fault Value :=
  let normal := normalPath path
  if path.toList.contains (Char.ofNat 0) then .error (.unreadableDocument "embedded null byte")
  else match store.files normal with
    | .missing => .error (systemError 2 "No such file or directory" normal)
    | .directory => .error (systemError 21 "Is a directory" normal)
    | .behindFile => .error (systemError 20 "Not a directory" normal)
    | .unreadable message => .error (.refusal message)
    | .contents text => parse store normal text

end FieldRules.Document
