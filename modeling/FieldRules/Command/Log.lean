import FieldRules.Document.JsonWriter
import FieldRules.Journal.Event
import FieldRules.Journal.Redaction

/-!
# Command — Log

What a command logs: events from a level on. Where the log is one of records,
each event is one line of JSON, without its secrets; the time is left out.
-/

namespace FieldRules.Command

def Channel.name : Channel → String
  | .validation => "validation"
  | .render => "render"
  | .command => "cli"

def weight : Severity → Nat
  | .debug => 10
  | .error => 40

/-- The least weight of what is logged, by the name of a level. A name that nothing has stands for
the usual level; two names are taken by something else, which is no level. -/
def threshold? (level : String) : Option Nat :=
  match Text.upperString level with
  | "NOTSET" => some 0
  | "DEBUG" => some 10
  | "INFO" => some 20
  | "WARN" => some 30
  | "WARNING" => some 30
  | "ERROR" => some 40
  | "FATAL" => some 50
  | "CRITICAL" => some 50
  | "BASIC_FORMAT" => none
  | "_STYLES" => none
  | _ => some 20

/-- What is added to everything that is logged, until it is cleared. -/
abbrev Context := Named Value

/-- An event with what the context adds; what the event says itself stays. -/
def inContext (context : Context) (event : Dict) : Dict :=
  event ++ Dict.ofNames (context.filter fun c => !event.has c.1)

/-- What is logged of an event that a command meets. -/
def eventFields (context : Context) (e : Event) : Dict :=
  let event := Dict.union (Dict.ofNames e.values) [(.text "event", .text e.name)]
  Redaction.addService
    (Dict.union (inContext context event)
      [(.text "level", .text e.severity.name),
       (.text "logger", .text ("unival." ++ Channel.name e.channel))])

/-- The record of an event, on one line. -/
def logLine (context : Context) (e : Event) : String :=
  Json.document .line (Redaction.redactEvent (.dict (eventFields context e)))

/-- An error as it is logged. -/
def errorFields (e : UsageError) : Value :=
  .dict (Dict.ofNames
    [("error", .dict (Dict.ofNames
      [("code", .text e.code.name), ("code_num", .int e.code.number),
       ("message", .text e.message), ("category", .text e.code.category),
       ("origin", .text e.origin), ("metadata", .dict (Dict.ofNames e.metadata))]))])

end FieldRules.Command
