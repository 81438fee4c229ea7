import FieldRules.Command.Run

/-!
# Main

The command line: reads the environment and the files that the arguments
name, carries out the command and prints what it leaves behind.
-/

namespace FieldRules.Main

/-- The variables of a text that gives one in each part, their names in capitals. The last part
that gives a variable counts. -/
def variablesOf (parts : List String) : Environment := fun name =>
  let pairs := parts.filterMap fun part =>
    match Text.splitOn (· == '=') part.toList with
    | key :: value :: more =>
      some (Text.upperString (Text.trimString (String.ofList key)),
        Text.joinWith "=" ((value :: more).map String.ofList))
    | _ => none
  pairs.reverse.lookup name

/-- The variables of the process, and those of the file beside it, which gives one on each line. -/
def readEnvironment : IO Environment := do
  let own ← try IO.FS.readFile "/proc/self/environ" catch _ => pure ""
  let file ← try IO.FS.readFile ".env" catch _ => pure ""
  let parts (separator : Char) (text : String) : List String :=
    (Text.splitOn (· == separator) text.toList).map String.ofList
  let process := variablesOf (parts (Char.ofNat 0) own)
  let beside := variablesOf (parts '\n' file)
  return fun name => (process name).or (beside name)

/-- What is found under a path. -/
def readState (path : String) : IO Document.FileState := do
  try
    return .contents (← IO.FS.readFile path)
  catch e =>
    match e with
    | .inappropriateType _ code _ => return if code == 20 then .behindFile else .directory
    | .noFileOrDirectory .. => return .missing
    | other => return .unreadable (toString other)

/-- The files that a task reads. -/
def readFiles (task : Command.Task) : IO Document.Files := do
  let states ← task.paths.mapM fun path => do
    let normal := Document.normalPath path
    return (normal, ← readState normal)
  return fun path => (states.lookup path).getD .missing

def usage : String :=
  "usage: unival [-h] [--log-level LOG_LEVEL] [--json-logs] \x7brender,validate\x7d ..."

/-- Carries out a command line; the result is the exit code. -/
def run (arguments : List String) : IO UInt32 := do
  match Command.Invocation.parse arguments with
  | .error .help =>
    IO.println usage
    return 0
  | .error .usage =>
    IO.eprintln usage
    return 2
  | .ok invocation =>
    let environment ← readEnvironment
    let files ← readFiles invocation.task
    match Command.run (.standard environment files) invocation with
    | .ok output =>
      IO.print output.stdout
      output.stderr.forM IO.eprintln
      return output.exitCode.toUInt32
    | .error _ =>
      IO.eprintln "error: the input cannot be processed"
      return 1

end FieldRules.Main

def main (arguments : List String) : IO UInt32 :=
  FieldRules.Main.run arguments
