import NewsSearch.Calendar.Moment
import NewsSearch.Config.Setup
import NewsSearch.Files.Tree
import NewsSearch.Report.Console
import NewsSearch.Report.Record
import NewsSearch.Search.Connection

/-!
Running all searches.

The searches run one after the other, and each outcome is written in the chosen formats: it is shown
on the console at once, and kept for the file, which is written after the last search.  A search
that stops early is counted and the next one runs all the same; any other fault ends the run, also
that of an outcome which cannot be shown.  After such a fault nothing is saved.  The connection is
closed at the end, whatever happened.
-/

namespace NewsSearch.Command

open Calendar Number Text

variable {σ : Type}

/-- What running the searches gives: the notes, the outcomes that all writers have taken, the fault
    that ended the run, and the state afterwards. -/
structure Progress (σ : Type) where
  notes : List Note
  outcomes : List Outcome
  fault : Option Fault
  state : σ

/-- What a run leaves behind: the notes, the files, the fault that ended it, and the state
    afterwards. -/
structure Finished (σ : Type) where
  notes : List Note
  tree : FileTree
  fault : Option Fault
  state : σ

/-- How a run works: the options and formats, and the directory and moment for the file. -/
structure SearchPlan where
  searches : List NamedSearch
  options : CollectOptions
  formats : List Report.Format
  directory : String
  stamp : Moment

/-- The notes before a search that has the given place among all. -/
def openingNotes (index total : Nat) (n : NamedSearch) : List Note :=
  let name := n.name.getD "None"
  let document := (Data.map n.search.document).plain
  let place := s!"{natText index}/{natText total}"
  Note.quoting (.map n.search.document)
      (.main .debug s!"Running query {place} name={name} document={document}") ++
    (if 1 < total then [Note.main .info s!"=== Query {place} ==="] else [])

/-- What showing an outcome gives: nothing, unless it is shown on the console. -/
def showOutcome (formats : List Report.Format) (o : Outcome) : Report.Shown :=
  if formats.contains .console then Report.display o else ⟨[], none⟩

/-- Runs the searches of which the first has the given place among `total`.

    Each search is opened with notes, collected, and its outcome is shown.  A pass that breaks and
    an outcome that cannot be shown end the run: the later searches are not run, and the outcome of
    this one is not among those to be saved.  A page that fails ends nothing but its pass. -/
def runSearches (d : Dispatcher σ) (plan : SearchPlan) (fuel total : Nat) :
    Nat → List NamedSearch → σ → Progress σ
  | _, [], s => ⟨[], [], none, s⟩
  | index, n :: rest, s =>
    let opening := openingNotes index total n
    let collected := n.collect d plan.options fuel s
    match collected.ending with
    | .broken fault => ⟨opening ++ collected.notes, [], some fault, collected.state⟩
    | _ =>
      let shown := showOutcome plan.formats collected.outcome
      let notes := opening ++ collected.notes ++ shown.notes
      match shown.fault with
      | some fault => ⟨notes, [], some fault, collected.state⟩
      | none =>
        let later := runSearches d plan fuel total (index + 1) rest collected.state
        ⟨notes ++ later.notes, collected.outcome :: later.outcomes, later.fault, later.state⟩

/-- The moment as it stands in names of files: day and time of day. -/
def fileStamp (m : Moment) : String :=
  let two (n : Nat) : String := String.ofList (paddedDigits 2 n)
  natText m.date.year ++ two m.date.month ++ two m.date.day ++ "_" ++
    two m.time.hour ++ two m.time.minute ++ two m.time.second

/-- The path of the directory of the file to which the outcomes are saved. -/
def SearchPlan.savePath (plan : SearchPlan) : Path := (Path.ofText plan.directory).below "json"

/-- What saving leaves behind: the notes, the files, and the fault that ended it. -/
structure Saved where
  notes : List Note
  tree : FileTree
  fault : Option Fault

/-- Writes a text to a file and notes it.  A text that has no form in bytes leaves an empty file. -/
def writeOutcomes (tree : FileTree) (path : Path) (text : String) : Saved :=
  match tree.openFile path with
  | .error fault => ⟨[], tree, some (.path fault)⟩
  | .ok (tree, place) =>
    match encodingFault? text with
    | some fault => ⟨[], tree.put place "", some (.encoding fault)⟩
    | none => ⟨[.main .info ("JSON saved to " ++ path.text)], tree.put place text, none⟩

/-- Saves the outcomes, when they are saved.  The directories that lead to the file are made. -/
def save (plan : SearchPlan) (tree : FileTree) (outcomes : List Outcome) : Saved :=
  if plan.formats.contains .json then
    match Report.fileText outcomes, tree.makeDirectories plan.savePath with
    | .error fault, _ => ⟨[], tree, some fault⟩
    | .ok _, .error fault => ⟨[], tree, some (.path fault)⟩
    | .ok text, .ok tree =>
      writeOutcomes tree (plan.savePath.below ("search_" ++ fileStamp plan.stamp ++ ".json")) text
  else ⟨[], tree, none⟩

/-- The note that tells how many searches stopped early, if any did. -/
def incompleteNotes (outcomes : List Outcome) : List Note :=
  let count := (outcomes.filter (!·.isComplete)).length
  if count = 0 then [] else
    [.main .warning (s!"{natText count} of {natText outcomes.length} queries " ++
      "returned incomplete results")]

/-- The note about the fault that ended a run. -/
def failureNote (fault : Fault) : Note := .main .error ("Search failed: " ++ fault.message)

/-- Runs the searches of a plan over a connection, each in at most `fuel` pulls. -/
def SearchPlan.run (plan : SearchPlan) (c : Connection σ) (fuel : Nat) (tree : FileTree) (s : σ) :
    Finished σ :=
  let total := plan.searches.length
  let progress := runSearches c.dispatcher plan fuel total 1 plan.searches s
  let saved : Saved := match progress.fault with
    | some fault => ⟨[], tree, some fault⟩
    | none => save plan tree progress.outcomes
  let (closing, s) := c.shut progress.state
  let last := match saved.fault with
    | none => incompleteNotes progress.outcomes
    | some fault => [failureNote fault]
  ⟨progress.notes ++ saved.notes ++ closing ++ last, saved.tree, saved.fault, s⟩

end NewsSearch.Command
