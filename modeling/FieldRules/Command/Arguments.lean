import FieldRules.Text.Blank
import FieldRules.Text.Letter

/-!
# Command — Arguments

Reading the arguments of a command line. Options may be shortened as long as
they stay unambiguous, take their value from the next argument or after an
equals sign, and stand anywhere among the positional arguments; after two
dashes everything is positional.
-/

namespace FieldRules.Command

/-! ## What a command line may hold -/

/-- What an option does. -/
inductive OptionKind where
  | help
  /-- Switches something on. -/
  | switch
  /-- Takes a value. -/
  | value
deriving DecidableEq

/-- An option under one of its spellings; `target` is the name of what it sets. -/
structure OptionSpec where
  spelling : List Char
  target : String
  kind : OptionKind

/-- A positional argument: one argument, or a name with everything after it. -/
inductive Positional where
  | single (target : String)
  | remainder

structure Grammar where
  options : List OptionSpec
  positionals : List Positional

/-- Why a command line is not carried out. -/
inductive Refusal where
  /-- Help was asked for. -/
  | help
  /-- The command line does not fit. -/
  | usage
deriving DecidableEq

/-! ## Marking -/

/-- An argument that names an option: the option, if it is known, the spelling that was found, and
a value after an equals sign. -/
structure OptionUse where
  spec : Option OptionSpec
  value : Option (List Char)

/-- What an argument is. -/
inductive Mark where
  | positional
  | dashes
  | option (use : OptionUse)

/-- What stands before and after the first equals sign. -/
def splitEquals (cs : List Char) : List Char × Option (List Char) :=
  let (before, rest) := cs.span (· != '=')
  match rest with
  | [] => (before, none)
  | _ :: after => (before, some after)

/-- A negative number, which is no option. -/
def isNegativeNumber : List Char → Bool
  | '-' :: cs =>
    let (whole, rest) := cs.span Text.isDigit
    match rest with
    | [] => !whole.isEmpty
    | '.' :: digits => !digits.isEmpty && digits.all Text.isDigit
    | _ => false
  | _ => false

/-- The options that an argument with two dashes in front may shorten. -/
def longMatches (g : Grammar) (cs : List Char) : List OptionUse :=
  let (name, value) := splitEquals cs
  (g.options.filter fun o => name.isPrefixOf o.spelling).map fun o => ⟨some o, value⟩

/-- The options that an argument with one dash in front may mean: one letter with something right
after it, or a shortened spelling. -/
def shortMatches (g : Grammar) (cs : List Char) : List OptionUse :=
  g.options.filterMap fun o =>
    if o.spelling == cs.take 2 then some ⟨some o, some (cs.drop 2)⟩
    else if cs.isPrefixOf o.spelling then some ⟨some o, none⟩
    else none

/-- What an argument is, taken by itself. -/
def markOf (g : Grammar) (cs : List Char) : Except Refusal Mark :=
  if cs.head? != some '-' then .ok .positional
  else match g.options.find? fun o => o.spelling == cs with
    | some o => .ok (.option ⟨some o, none⟩)
    | none =>
      if cs.length == 1 then .ok .positional
      else
        let (name, value) := splitEquals cs
        match value.bind fun _ => g.options.find? fun o => o.spelling == name with
        | some o => .ok (.option ⟨some o, value⟩)
        | none =>
          let found := if cs.take 2 == ['-', '-'] then longMatches g cs else shortMatches g cs
          match found with
          | [use] => .ok (.option use)
          | _ :: _ :: _ => .error .usage
          | [] =>
            if isNegativeNumber cs || cs.contains ' ' then .ok .positional
            else .ok (.option ⟨none, none⟩)

/-- An argument and what it is. -/
structure Argument where
  text : List Char
  mark : Mark

def Argument.isOption (a : Argument) : Bool :=
  match a.mark with
  | .option _ => true
  | _ => false

def Argument.isPositional (a : Argument) : Bool :=
  match a.mark with
  | .positional => true
  | _ => false

def Argument.isDashes (a : Argument) : Bool :=
  match a.mark with
  | .dashes => true
  | _ => false

/-- All arguments with what they are. -/
def markAll (g : Grammar) : List (List Char) → Except Refusal (List Argument)
  | [] => .ok []
  | cs :: rest =>
    if cs == ['-', '-'] then .ok (⟨cs, .dashes⟩ :: rest.map fun r => ⟨r, .positional⟩)
    else do
      let mark ← markOf g cs
      return ⟨cs, mark⟩ :: (← markAll g rest)

/-! ## Taking -/

/-- What has been read: values and switches by target, the remainder, and what fits nowhere. -/
structure Found where
  values : List (String × List Char) := []
  switches : List String := []
  remainder : Option (List (List Char)) := none
  extras : List (List Char) := []

/-- One positional argument at the front, dashes around it left out. -/
def takeSingle (arguments : List Argument) : Option (List Char × List Argument) :=
  match arguments.dropWhile Argument.isDashes with
  | a :: rest => if a.isPositional then some (a.text, rest.dropWhile Argument.isDashes) else none
  | [] => none

/-- As many of the positional arguments as stand at the front, and the positionals still open. -/
def takePositionals : List Positional → List Argument → Found →
    List Positional × List Argument × Found
  | [], arguments, found => ([], arguments, found)
  | .remainder :: open', arguments, found =>
    match takeSingle arguments with
    | some _ => (open', [], { found with remainder := some (arguments.map Argument.text) })
    | none => (.remainder :: open', arguments, found)
  | .single target :: open', arguments, found =>
    match takeSingle arguments with
    | some (text, rest) =>
      takePositionals open' rest { found with values := found.values ++ [(target, text)] }
    | none => (.single target :: open', arguments, found)

/-- What an option with one dash does when something follows its letter: each further letter is an
option in turn. -/
def takeLetters (g : Grammar) : List Char → Except Refusal Bool
  | [] => .ok true
  | c :: cs =>
    match g.options.find? fun o => o.spelling == ['-', c] with
    | none => .error .usage
    | some _ => takeLetters g cs

/-- The option at the front with its value. -/
def takeOption (g : Grammar) (use : OptionUse) (text : List Char) (rest : List Argument)
    (found : Found) : Except Refusal (List Argument × Found) :=
  match use.spec with
  | none => .ok (rest, { found with extras := found.extras ++ [text] })
  | some o =>
    match o.kind, use.value with
    | .value, some v => .ok (rest, { found with values := found.values ++ [(o.target, v)] })
    | .value, none =>
      match rest with
      | a :: rest' =>
        if a.isPositional then
          .ok (rest', { found with values := found.values ++ [(o.target, a.text)] })
        else .error .usage
      | [] => .error .usage
    | .help, none => .error .help
    | .switch, none => .ok (rest, { found with switches := found.switches ++ [o.target] })
    | _, some letters =>
      if o.spelling.take 2 == ['-', '-'] || letters.isEmpty then .error .usage
      else match takeLetters g letters with
        | .error e => .error e
        | .ok _ => .error .help

/-- Reads arguments in order; `fuel` exceeds their number. -/
def takeAll (g : Grammar) : Nat → List Positional → List Argument → Found →
    Except Refusal (List Positional × Found)
  | 0, _, _, _ => .error .usage
  | fuel + 1, positionals, arguments, found =>
    match arguments with
    | [] => .ok (positionals, found)
    | a :: rest =>
      match a.mark with
      | .option use => do
        let (rest', found') ← takeOption g use a.text rest found
        takeAll g fuel positionals rest' found'
      | _ =>
        let (positionals', rest', found') := takePositionals positionals arguments found
        if rest'.length < arguments.length then takeAll g fuel positionals' rest' found'
        else
          let skipped := arguments.takeWhile fun b => !b.isOption
          takeAll g fuel positionals (arguments.drop skipped.length)
            { found with extras := found.extras ++ skipped.map Argument.text }

/-- What a command line holds, and the positionals that are missing. -/
def readArguments (g : Grammar) (texts : List (List Char)) :
    Except Refusal (List Positional × Found) := do
  let arguments ← markAll g texts
  takeAll g (2 * arguments.length + 1) g.positionals arguments {}

/-! ## The command line of the program -/

/-- What is to be done. -/
inductive Task where
  | render (config : String) (options : Option String) (basic : Bool)
  | validate (rules data : String)

/-- The paths of the documents that a task may read. -/
def Task.paths : Task → List String
  | .render config options _ => config :: options.toList
  | .validate rules data => [rules, data]

structure Invocation where
  logLevel : Option String
  jsonLogs : Bool
  task : Task

def helpOptions : List OptionSpec :=
  [⟨"-h".toList, "help", .help⟩, ⟨"--help".toList, "help", .help⟩]

def mainGrammar : Grammar where
  options := helpOptions ++
    [⟨"--log-level".toList, "log_level", .value⟩, ⟨"--json-logs".toList, "json_logs", .switch⟩]
  positionals := [.remainder]

def renderGrammar : Grammar where
  options := helpOptions ++
    [⟨"--options".toList, "options", .value⟩, ⟨"--basic".toList, "basic", .switch⟩]
  positionals := [.single "config"]

def validateGrammar : Grammar where
  options := helpOptions
  positionals := [.single "rules", .single "data"]

/-- The last value for a target. -/
def Found.value? (found : Found) (target : String) : Option String :=
  (found.values.reverse.lookup target).map String.ofList

/-- The task of a subcommand with its arguments. -/
def readTask (name : List Char) (texts : List (List Char)) : Except Refusal Task :=
  let read (g : Grammar) : Except Refusal Found :=
    match readArguments g texts with
    | .error e => .error e
    | .ok ([], found) => if found.extras.isEmpty then .ok found else .error .usage
    | .ok (_, _) => .error .usage
  match String.ofList name with
  | "render" => do
    let found ← read renderGrammar
    return .render ((found.value? "config").getD "") (found.value? "options")
      (found.switches.contains "basic")
  | "validate" => do
    let found ← read validateGrammar
    return .validate ((found.value? "rules").getD "") ((found.value? "data").getD "")
  | _ => .error .usage

/-- What a command line asks for. -/
def Invocation.parse (texts : List String) : Except Refusal Invocation :=
  match readArguments mainGrammar (texts.map String.toList) with
  | .error e => .error e
  | .ok (_, found) =>
    match found.remainder with
    | some (name :: rest) => do
      let task ← readTask name rest
      if found.extras.isEmpty then
        return ⟨found.value? "log_level", found.switches.contains "json_logs", task⟩
      else .error .usage
    | _ => .error .usage

end FieldRules.Command
