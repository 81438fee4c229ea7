import FieldRules.Command.Arguments
import FieldRules.Command.Log
import FieldRules.Document.Load
import FieldRules.Document.Yaml
import FieldRules.Options.Standard

/-!
# Command — Host

What a command runs on, as far as it is no part of the program: where its
documents come from, the libraries it calls, and what it prints on.
-/

namespace FieldRules.Command

structure Host where
  deployment : Deployment
  documents : Document.Store
  /-- Why a text cannot be printed, where it cannot. -/
  refuses : String → Option String
  /-- An event as it is shown where the log is not one of records. -/
  shows : Context → Event → String
  /-- What other libraries log during a task from a weight on, as records or not. -/
  others : Bool → Nat → Task → List String
  /-- Something is nested too deeply to be gone through. -/
  exhausts : Task → Bool

/-- The lines of the log: those of other libraries and those of the events that are weighty
enough. -/
def Host.logged (host : Host) (json : Bool) (threshold : Nat) (context : Context) (task : Task)
    (events : List Event) : List String :=
  let show' : Event → String := if json then logLine context else host.shows context
  host.others json threshold task ++
    (events.filter fun e => threshold ≤ weight e.severity).map show'

/-! ## The host of the program -/

/-- Halves of pairs are kept as characters of a plane that has no others. -/
def standIn (n : Nat) : Char := Char.ofNat (0xD0000 + (n - 0xD800))

def isStandIn (c : Char) : Bool := 0xD0000 ≤ c.toNat && c.toNat < 0xD0800

/-- A half of a pair has no encoding, and a text that has one is not printed. -/
def encodingFlaw? (text : String) : Option String :=
  let (before, rest) := text.toList.span fun c => !isStandIn c
  match rest with
  | [] => none
  | c :: after =>
    let place := before.length
    let run := (after.takeWhile isStandIn).length
    let what :=
      if run = 0 then
        "character '\\u" ++ String.ofList (Text.hexDigits 4 (c.toNat - 0xD0000 + 0xD800)) ++
          "' in position " ++ toString place
      else "characters in position " ++ toString place ++ "-" ++ toString (place + run)
    some ("'utf-8' codec can't encode " ++ what ++ ": surrogates not allowed")

/-- The library for YAML that the program runs with. -/
def readYaml (text : String) : Except Document.Misread Value :=
  match Yaml.parse text with
  | .ok v => .ok v
  | .error message => .error (.worded message)

/-- An event with its values, for people. -/
def showEvent (context : Context) (e : Event) : String :=
  Text.joinWith " " (e.name :: (e.values ++ context).map fun v => v.1 ++ "=" ++ v.2.display)

/-- The host that the program runs on. -/
def Host.standard (environment : Environment) (files : Document.Files) : Host where
  deployment := ⟨.standard, environment⟩
  documents := ⟨files, readYaml, standIn⟩
  refuses := encodingFlaw?
  shows := showEvent
  others _ _ _ := []
  exhausts _ := false

end FieldRules.Command
