import NewsSearch.Fault
import NewsSearch.Text.Similar

/-!
The command line.

The program has commands; its own options come before the name of the command and the options of the
command after it.  A line that cannot be understood is a usage fault, which is reported with a
reminder of how the program, or the command, is used.
-/

namespace NewsSearch.Command

open Text

/-- What the program can be told to do. -/
inductive Action where
  /-- Shows what would be sent for each search. -/
  | compile
  /-- Runs the searches and writes what they find. -/
  | search
  deriving DecidableEq, Repr

namespace Action

/-- The name of an action on the command line. -/
def name : Action → String
  | compile => "compile"
  | search => "search"

/-- What the action does, in one sentence. -/
def summary : Action → String
  | compile => "Print the request body of each configured query as JSON."
  | search => "Run the configured queries and write the results."

/-- What else is to be said about the action. -/
def details : Action → List String
  | compile => []
  | search => ["", "  Raises:     click.Abort: When the search fails."]

/-- All actions, by name. -/
def every : List Action := [compile, search]

/-- The action of a given name. -/
def ofName? (name : String) : Option Action := every.find? (·.name == name)

end Action

/-- Why a command line is not understood. -/
inductive UsageFault where
  /-- There is no such option; perhaps one of the others was meant. -/
  | noOption (name : String) (near : List String)
  | needsValue (name : String)
  | takesNoValue (name : String)
  | noFile (path : String)
  | directory (path : String)
  /-- The settings cannot be used. -/
  | settings (message : String)
  | noCommand
  /-- There is no such command; perhaps one of the others was meant. -/
  | unknownCommand (name : String) (near : List String)
  | extraArguments (arguments : List String)
  deriving DecidableEq, Repr

/-- The question whether one of the names was meant. -/
def nearQuestion (names : List String) : String :=
  let listed := ", ".intercalate (names.map quoted)
  match names with
  | [] => ""
  | [_] => s!" Did you mean {listed}?"
  | _ => s!" (Did you mean one of: {listed}?)"

/-- The wording of a usage fault. -/
def UsageFault.message : UsageFault → String
  | noOption name near => s!"No such option {quoted name}." ++ nearQuestion near
  | needsValue name => s!"Option {quoted name} requires an argument."
  | takesNoValue name => s!"Option {quoted name} does not take a value."
  | noFile path => s!"Invalid value for '--config': File {quoted path} does not exist."
  | directory path => s!"Invalid value for '--config': File {quoted path} is a directory."
  | settings message => s!"Invalid value for --config: {message}"
  | noCommand => "Missing command."
  | unknownCommand name near => s!"No such command {quoted name}." ++ nearQuestion near
  | extraArguments arguments =>
    let noun := if arguments.length = 1 then "argument" else "arguments"
    let listed := " ".intercalate arguments
    s!"Got unexpected extra {noun} ({listed})"

/-- The fault of a name that no action has. -/
def UsageFault.unknownAction (name : String) : UsageFault :=
  .unknownCommand name (alikeAmong (Action.every.map Action.name) name)

/-- Whether the report of a fault reminds of how the program is used.  A value that is missing or
    too many is reported without the reminder. -/
def UsageFault.remindsOfUsage : UsageFault → Bool
  | needsValue _ | takesNoValue _ => false
  | _ => true

/-! ## Options -/

/-- The option that names the configuration. -/
def configOption : String := "--config"

/-- The option that asks for help. -/
def helpOption : String := "--help"

/-- Whether an argument is an option. -/
def isOption (argument : String) : Bool :=
  argument.toList.head? == some '-' && 1 < argument.length

/-- An option and the value that is joined to it by an equals sign. -/
def splitOption (argument : String) : String × Option String :=
  let cs := argument.toList
  match cs.dropWhile (· ≠ '=') with
  | _ :: value => (String.ofList (cs.takeWhile (· ≠ '=')), some (String.ofList value))
  | [] => (argument, none)

/-- The fault of an option that is none of the known ones. -/
def unknownOption (known : List String) (argument : String) : UsageFault :=
  let name := (splitOption argument).1
  if argument.startsWith "--" then .noOption name (alikeAmong known name)
  else .noOption (textOf ((codePoints argument.toList).take 2)) []

/-! ## The program's own arguments -/

/-- The arguments of the program: its options, and the name of the command with what follows. -/
structure ProgramArguments where
  config : Option String
  help : Bool
  rest : List String
  deriving DecidableEq, Repr

/-- Reads the arguments of the program after those that are already known. -/
def ProgramArguments.readFrom (known : ProgramArguments) :
    List String → Except UsageFault ProgramArguments
  | [] => .ok known
  | argument :: rest =>
    if argument = "--" then .ok { known with rest := rest }
    else if !isOption argument then .ok { known with rest := argument :: rest }
    else
      let (name, value) := splitOption argument
      if name = configOption then
        match value, rest with
        | some path, rest => readFrom { known with config := some path } rest
        | none, path :: rest => readFrom { known with config := some path } rest
        | none, [] => .error (.needsValue name)
      else if name = helpOption then
        if value.isSome then .error (.takesNoValue name)
        else readFrom { known with help := true } rest
      else .error (unknownOption [configOption, helpOption] argument)

/-- Reads the arguments of the program. -/
def ProgramArguments.read (arguments : List String) : Except UsageFault ProgramArguments :=
  readFrom ⟨none, false, []⟩ arguments

/-! ## The arguments of a command -/

/-- The arguments of a command: whether help is asked for, and what has no place. -/
structure ActionArguments where
  help : Bool
  extra : List String
  deriving DecidableEq, Repr

/-- Reads the arguments of a command.  Options may stand anywhere before two dashes. -/
def ActionArguments.read : List String → Except UsageFault ActionArguments
  | [] => .ok ⟨false, []⟩
  | argument :: rest =>
    if argument = "--" then .ok ⟨false, rest⟩
    else if !isOption argument then do
      let others ← read rest
      .ok { others with extra := argument :: others.extra }
    else
      let (name, value) := splitOption argument
      if name = helpOption then
        if value.isSome then .error (.takesNoValue name)
        else do
          let others ← read rest
          .ok { others with help := true }
      else .error (unknownOption [helpOption] argument)

/-! ## Help -/

/-- The name of the program. -/
def programName : String := "cli"

/-- The line that says how the program is used. -/
def programUsage : String := s!"Usage: {programName} [OPTIONS] COMMAND [ARGS]..."

/-- The line that says how a command is used. -/
def Action.usage (a : Action) : String := s!"Usage: {programName} {a.name} [OPTIONS]"

/-- Lines as text, each with its end. -/
def asLines (lines : List String) : String := String.join (lines.map (· ++ "\n"))

/-- What the program says about itself. -/
def programHelp : String :=
  asLines ([
    programUsage,
    "",
    "  NewsTracker: search news articles and events.",
    "",
    "Options:",
    "  --config FILE  Path to YAML config file.  [default: config/default.yml]",
    "  --help         Show this message and exit.",
    "",
    "Commands:"] ++
    Action.every.map fun a =>
      "  " ++ a.name ++ (if a.name.length < 7 then " " else "") ++ "  " ++ a.summary)

/-- What the program says about a command. -/
def Action.help (a : Action) : String :=
  asLines ([a.usage, "", "  " ++ a.summary] ++ a.details ++
    ["", "Options:", "  --help  Show this message and exit."])

/-- The report of a usage fault of the program, or of a command. -/
def UsageFault.report (a : Option Action) (fault : UsageFault) : String :=
  let (usage, hint) := match a with
    | none => (programUsage, programName)
    | some a => (a.usage, programName ++ " " ++ a.name)
  let reminder := [usage, s!"Try '{hint} --help' for help.", ""]
  asLines ((if fault.remindsOfUsage then reminder else []) ++ ["Error: " ++ fault.message])

example : (ProgramArguments.read ["--config", "c.yml", "search", "--help"]).toOption =
    some ⟨some "c.yml", false, ["search", "--help"]⟩ := by decide +kernel
example : (ProgramArguments.read ["--config"]).toOption = none := by decide +kernel

end NewsSearch.Command
