/-!
The journal of a run.

What happens during a run is noted, each note with a level and the part of the program that made it.
The console shows the notes from the configured level on, but never those for debugging; the journal
file of a command has all of them.
-/

namespace NewsSearch

/-- How important a note is. -/
inductive Level where
  | debug
  | info
  | warning
  | error
  | critical
  deriving DecidableEq, Repr

namespace Level

/-- The place of a level in the order of importance. -/
def rank : Level → Nat
  | debug => 0
  | info => 1
  | warning => 2
  | error => 3
  | critical => 4

/-- The name of a level. -/
def name : Level → String
  | debug => "DEBUG"
  | info => "INFO"
  | warning => "WARNING"
  | error => "ERROR"
  | critical => "CRITICAL"

/-- The mark of a level in journal lines. -/
def mark : Level → String
  | debug => "DEBG"
  | info => "INFO"
  | warning => "WARN"
  | error | critical => "ERRO"

/-- All levels, the least important first. -/
def every : List Level := [debug, info, warning, error, critical]

/-- The level of a given name. -/
def ofName? (name : String) : Option Level := every.find? (·.name == name)

end Level

/-- The part of the program that makes a note. -/
inductive Origin where
  /-- The program at large. -/
  | main
  /-- The passes over listings. -/
  | paging
  deriving DecidableEq, Repr

/-- A note in the journal. -/
structure Note where
  level : Level
  origin : Origin
  message : String
  deriving DecidableEq, Repr

namespace Note

/-- A note by the program at large. -/
def main (level : Level) (message : String) : Note := ⟨level, .main, message⟩

/-- A note about a pass over a listing. -/
def paging (level : Level) (message : String) : Note := ⟨level, .paging, message⟩

/-- The note as a journal line, without the time. -/
def line (n : Note) : String :=
  "[" ++ n.level.mark ++ "] " ++
    (match n.origin with
     | .main => ""
     | .paging => "iterator: ") ++ n.message

/-- Whether the console shows the note when it is set to `level`. -/
def isShown (level : Level) (n : Note) : Bool :=
  level.rank ≤ n.level.rank && Level.info.rank ≤ n.level.rank

end Note

example : (Note.paging .warning "Page 1 failed").line = "[WARN] iterator: Page 1 failed" := by
  decide

end NewsSearch
