import NewsSearch.Command.Arguments
import NewsSearch.Command.Compile
import NewsSearch.Command.Search
import NewsSearch.Config.Load
import NewsSearch.Text.Alphanumeric

/-!
The program.

A run of the program takes its command line, the environment, the files it can read and the moment
at which it runs, and gives the exit code, what it writes to the console, the files it creates, and
the session with the service if there was one.  What is noted goes to the console from the
configured level on, and as a whole to a journal file when the settings ask for one.
-/

namespace NewsSearch.Command

open Calendar Number Text

variable {ω : Type}

/-- What a run of the program starts from. -/
structure Invocation (ω : Type) where
  arguments : List String
  environment : Config.Environment
  tree : FileTree
  stamp : Moment
  clock : Float
  surroundings : Surroundings Float ω
  world : ω
  /-- The most pages that are asked for in one search. -/
  fuel : Nat

/-- What a run of the program gives. -/
structure Exit (ω : Type) where
  code : Nat
  output : String
  /-- The files that were written. -/
  files : List (Place × String)
  session : Option (Session Float ω)

/-- A run that ends without any work. -/
def Exit.early (code : Nat) (output : String) : Exit ω := ⟨code, output, [], none⟩

/-- A run that ends with a usage fault of the program, or of a command. -/
def Exit.usage (a : Option Action) (fault : UsageFault) : Exit ω :=
  .early 2 (withoutSurrogates (fault.report a))

/-! ## The journal -/

/-- The path of the journal file of an action. -/
def journalPath (directory : String) (a : Action) (stamp : Moment) : Path :=
  let two (n : Nat) : String := String.ofList (paddedDigits 2 n)
  let mark := two stamp.date.month ++ two stamp.date.day ++ two stamp.time.hour ++
    two stamp.time.minute ++ two stamp.time.second
  (Path.ofText directory).below (a.name ++ "/" ++ a.name ++ "_" ++ mark ++ ".log")

/-- The path of the journal file, when the settings ask for one. -/
def journalFile (settings : Config.Settings) (a : Action) (stamp : Moment) : Option Path :=
  if settings.journal.toFile then some (journalPath settings.journal.directory a stamp) else none

/-- What the console shows of the notes; there surrogates are written as escapes. -/
def consoleText (settings : Config.Settings) (notes : List Note) : String :=
  let level := (Level.ofName? settings.journal.level).getD .info
  withoutSurrogates (asLines ((notes.filter (·.isShown level)).map (·.line)))

/-- A journal that is open: its path and its place, if it is written to a file, and the files. -/
structure OpenJournal where
  file : Option (Path × Place)
  tree : FileTree

/-- Opens the journal of an action.  The directories that lead to its file are made. -/
def openJournal (settings : Config.Settings) (a : Action) (stamp : Moment) (tree : FileTree) :
    Except PathFault OpenJournal := do
  match journalFile settings a stamp with
  | none => .ok ⟨none, tree⟩
  | some path =>
    let (tree, place) ← (← tree.makeDirectories path.parent).openFile path
    .ok ⟨some (path, place), tree⟩

namespace OpenJournal

/-- The note that opens the journal file, if there is one. -/
def openingNotes (j : OpenJournal) : List Note :=
  match j.file with
  | some (path, _) => [.main .debug ("Logging to " ++ path.text)]
  | none => []

/-- The files when the notes have been added to the journal file, if there is one. -/
def close (j : OpenJournal) (tree : FileTree) (notes : List Note) : FileTree :=
  match j.file with
  | some (_, place) => tree.append place (asLines (notes.map (·.line)))
  | none => tree

end OpenJournal

/-- What the program says when an action could not be carried through. -/
def abortedText : String := "Aborted!\n"

/-! ## Actions -/

/-- Sets up what running the searches needs. -/
def searchSetup (settings : Config.Settings) (stamp : Moment) :
    Except Fault (Client Float × SearchPlan) := do
  let client ← settings.service.client
  let formats ← settings.output.chosenFormats
  .ok (client, {
    searches := settings.search.searches
    options := settings.search.collectOptions
    formats := formats
    directory := settings.output.directory
    stamp := stamp })

/-- Runs the searches and writes what they find. -/
def search (i : Invocation ω) (settings : Config.Settings) (journal : OpenJournal) : Exit ω :=
  let finish (code : Nat) (tree : FileTree) (notes : List Note)
      (session : Option (Session Float ω)) : Exit ω :=
    let notes := journal.openingNotes ++ notes
    let output := consoleText settings notes ++ (if code = 0 then "" else abortedText)
    ⟨code, output, (journal.close tree notes).changedSince i.tree, session⟩
  match searchSetup settings i.stamp with
  | .error fault => finish 1 journal.tree [failureNote fault] none
  | .ok (client, plan) =>
    let finished := plan.run (client.connection i.surroundings) i.fuel journal.tree
      (client.openSession i.clock i.world)
    finish (if finished.fault.isNone then 0 else 1) finished.tree finished.notes
      (some finished.state)

/-- Shows what would be sent for each search. -/
def compile (i : Invocation ω) (settings : Config.Settings) (journal : OpenJournal) : Exit ω :=
  let finish (code : Nat) (notes : List Note) (text : String) : Exit ω :=
    let notes := journal.openingNotes ++ notes
    ⟨code, consoleText settings notes ++ text,
      (journal.close journal.tree notes).changedSince i.tree, none⟩
  match compiledText settings.search.searches with
  | .ok text => finish 0 [] (text ++ "\n")
  | .error fault => finish 1 [.main .error ("Compile failed: " ++ fault.message)] abortedText

/-- Carries out an action; nothing is done when its journal cannot be opened. -/
def Action.perform (a : Action) (i : Invocation ω) (settings : Config.Settings) : Exit ω :=
  match openJournal settings a i.stamp i.tree with
  | .error _ => .early 1 ""
  | .ok journal =>
    match a with
    | compile => Command.compile i settings journal
    | search => Command.search i settings journal

/-! ## The whole run -/

/-- Why the path of the configuration does not lead to a file.  A path that cannot be looked up at
    all is no fault of usage. -/
def checkPath (tree : FileTree) (path : String) : Except (Option UsageFault) Unit :=
  let p := Path.verbatim path
  if path.isEmpty then .error (some (.noFile path))
  else
    match tree.lookUp p with
    | .ok (.file _) => .ok ()
    | .ok .directory => .error (some (.directory path))
    | .error .zero | .error (.encoding _) => .error none
    | .error _ => .error (some (.noFile path))

/-- Whether a fault in loading the settings is one of usage: something in them does not have the
    shape or the value that it must have. -/
def isUsage (fault : Fault) : Bool :=
  fault.kind == .type || fault.kind == .value || fault.kind == .encoding

/-- Loads the settings and carries out an action with the given arguments. -/
def perform (i : Invocation ω) (path : String) (a : Action) (arguments : List String) : Exit ω :=
  match Config.load i.environment i.tree .standard (Path.ofText path) with
  | .error fault =>
    if isUsage fault then .usage none (.settings fault.message) else .early 1 ""
  | .ok settings =>
    match ActionArguments.read arguments with
    | .error fault => .usage (some a) fault
    | .ok given =>
      if given.help then .early 0 a.help
      else if !given.extra.isEmpty then .usage (some a) (.extraArguments given.extra)
      else a.perform i settings

/-- Reads the arguments of the program and looks for the configuration; goes on with the path of the
    configuration and the arguments that are left. -/
def withConfiguration (i : Invocation ω) (arguments : List String)
    (next : String → List String → Exit ω) : Exit ω :=
  match ProgramArguments.read arguments with
  | .error fault => .usage none fault
  | .ok given =>
    let path := given.config.getD Config.standardPath.text
    if given.help then .early 0 programHelp
    else
      match checkPath i.tree path with
      | .error (some fault) => .usage none fault
      | .error none => .early 1 ""
      | .ok () => next path given.rest

/-- Whether an argument looks like an option: it starts with neither a letter nor a number. -/
def looksLikeOption (argument : String) : Bool :=
  match argument.toList with
  | c :: _ => !isAlphanumeric c
  | [] => false

/-- The run that ends because no action has the name.  A name that looks like an option is read as
    one first, with what follows it. -/
def unknownAction (i : Invocation ω) (name : String) (arguments : List String) : Exit ω :=
  let fault := UsageFault.unknownAction name
  if looksLikeOption name then withConfiguration i (name :: arguments) fun _ _ => .usage none fault
  else .usage none fault

/-- Runs the program. -/
def run (i : Invocation ω) : Exit ω :=
  if i.arguments.isEmpty then .early 2 programHelp
  else withConfiguration i i.arguments fun path rest =>
    match rest with
    | [] => .usage none .noCommand
    | name :: arguments =>
      match Action.ofName? name with
      | none => unknownAction i name arguments
      | some a => perform i path a arguments

end NewsSearch.Command
