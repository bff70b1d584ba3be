import NewsSearch.Command.Program
import Std.Time.Format

/-!
The program on a computer.

Everything the program does is decided by `Command.run`; here its input is gathered and its output
written.  There is no transport to the service in this build, so every request fails, and what a run
can do without one is to show what would be sent.
-/

open NewsSearch NewsSearch.Calendar NewsSearch.Text

/-- The text of a file, if it can be read. -/
def fileText? (path : String) : IO (Option String) :=
  try
    return some (ofCharacters (← IO.FS.readFile (toCharacters path)))
  catch _ =>
    return none

/-- Whether the path leads to a directory. -/
def isDirectory (path : String) : IO Bool := do
  return ← ((← IO.currentDir) / toCharacters path).isDir

/-- What is at the given paths: the files that can be read, and the directories. -/
def visibleTree (paths : List String) : IO FileTree := do
  let found ← paths.filterMapM fun path => do
    return (← fileText? path).map fun text => (path, text)
  let directories ← paths.filterM isDirectory
  let tree := FileTree.ofTexts found
  return { tree with
    directories := directories.map (fun path => (Path.ofText path).place) ++ tree.directories }

/-- The present moment. -/
def presentMoment : IO Moment := do
  let now ← Std.Time.PlainDateTime.now
  let date := Date.make now.date.year.toInt now.date.month.val now.date.day.val
  let time := TimeOfDay.make now.time.hour.val now.time.minute.val now.time.second.val 0
  match date, time with
  | .ok date, .ok time => return ⟨date, time, none⟩
  | _, _ => throw (IO.userError "the clock shows no moment of the calendar")

/-- The variable that holds the key of the service, with its value, as far as both are known. -/
def keyEnvironment (tree : FileTree) (path : String) : IO Config.Environment := do
  match Config.load [] tree .standard (Path.ofText path) with
  | .error _ => return []
  | .ok settings =>
    let name := settings.service.keyVariable
    return match ← IO.getEnv (toCharacters name) with
      | some value => [(name, ofCharacters value)]
      | none => []

/-- Surroundings without a transport. -/
def unreachable : Surroundings Float Unit where
  post _ _ := (.failed "ConnectionError" "no transport", 0, ())
  jitter _ := (0, ())

/-- Writes a file and the directories that lead to it. -/
def writeFile (path text : String) : IO Unit := do
  IO.FS.createDirAll (toCharacters (Path.ofText path).parent.text)
  IO.FS.writeFile (toCharacters path) (toCharacters text)

/-- Runs the program. -/
def main (given : List String) : IO UInt32 := do
  let arguments := given.map ofCharacters
  let path := match Command.ProgramArguments.read arguments with
    | .ok given => given.config.getD Config.standardPath.text
    | .error _ => Config.standardPath.text
  let tree ← visibleTree [Config.standardPath.text, path]
  let finished := Command.run {
    arguments := arguments
    environment := ← keyEnvironment tree path
    tree := tree
    stamp := ← presentMoment
    clock := Float.ofNat (← IO.monoMsNow) / 1000
    surroundings := unreachable
    world := ()
    fuel := 1000000 }
  for (place, text) in finished.files do
    writeFile place.text text
  IO.print (toCharacters finished.output)
  return finished.code.toUInt32
