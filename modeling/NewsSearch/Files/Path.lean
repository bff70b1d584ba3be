import NewsSearch.Text.Quoted
import NewsSearch.Text.Surrogate

/-!
Paths.

A path is the way from one directory to a file or another directory, name by name.  A path of the
program's own settings is read by `Path.ofText`, which drops what leads nowhere: empty names and
single dots.  A path on the command line is taken as it stands, by `Path.verbatim`: there a single
dot, or a slash at the end, says that what comes before it is a directory.  Double dots are kept by
both, because whether they can be followed depends on what is there.
-/

namespace NewsSearch

open Text

/-- A path: the slashes at its beginning, none when it starts where the program works, and the names
    on the way. -/
structure Path where
  root : String
  names : List String
  deriving DecidableEq, Repr

namespace Path

/-- The parts of a text between slashes. -/
def slashParts (cs : List Char) : List (List Char) :=
  cs.foldr (fun c parts =>
    match parts with
    | part :: rest => if c = '/' then [] :: part :: rest else (c :: part) :: rest
    | [] => [[c]]) [[]]

/-- The slashes that a path with the given number of them at its beginning keeps: exactly two are
    kept, and more are as good as one. -/
def rootOf (slashes : Nat) : String :=
  if slashes = 0 then "" else if slashes = 2 then "//" else "/"

/-- The slashes at the beginning of a text that a path keeps. -/
def textRoot (cs : List Char) : String := rootOf (cs.takeWhile (· = '/')).length

/-- The names in a text, with single dots. -/
def textNames (cs : List Char) : List String :=
  ((slashParts cs).map String.ofList).filter (· ≠ "")

/-- The path that a text names. -/
def ofText (s : String) : Path where
  root := textRoot s.toList
  names := (textNames s.toList).filter (· ≠ ".")

/-- The path that a text names, taken as it stands. -/
def verbatim (s : String) : Path where
  root := textRoot s.toList
  names := textNames s.toList ++ (if s.toList.getLast? == some '/' then ["."] else [])

/-- The text that names the path; an empty path is a single dot. -/
def text (p : Path) : String :=
  if p.root = "" ∧ p.names = [] then "." else p.root ++ "/".intercalate p.names

/-- The path of what `other` names below the path. -/
def below (p : Path) (other : String) : Path :=
  let q := ofText other
  if q.root = "" then { p with names := p.names ++ q.names } else q

/-- The path without its last name. -/
def parent (p : Path) : Path := { p with names := p.names.dropLast }

end Path

example : (Path.ofText "./a//b/./c").text = "a/b/c" := by decide +kernel
example : (Path.ofText "a/../b/").text = "a/../b" := by decide +kernel
example : (Path.verbatim "a/b/").names = ["a", "b", "."] := by decide +kernel
example : ((Path.ofText "out").below "json").text = "out/json" := by decide +kernel
example : (Path.ofText "//a").text = "//a" := by decide +kernel

/-- Why a path does not lead where it should. -/
inductive PathObstacle where
  /-- There is nothing of this name. -/
  | missing
  /-- Something of this name is there already. -/
  | taken
  /-- A directory is wanted and a file is there. -/
  | notDirectory
  /-- A file is wanted and a directory is there. -/
  | directory
  /-- A name, or the path as a whole, is too long. -/
  | tooLong
  /-- The path holds the character with code 0. -/
  | zero
  /-- The path has no form in bytes. -/
  | encoding (fault : EncodingFault)
  deriving DecidableEq, Repr

/-- A path that does not lead where it should, and why. -/
structure PathFault where
  obstacle : PathObstacle
  path : String
  deriving DecidableEq, Repr

/-- The wording of a path fault. -/
def PathFault.message (fault : PathFault) : String :=
  let shown := quoted fault.path
  match fault.obstacle with
  | .missing => s!"[Errno 2] No such file or directory: {shown}"
  | .taken => s!"[Errno 17] File exists: {shown}"
  | .notDirectory => s!"[Errno 20] Not a directory: {shown}"
  | .directory => s!"[Errno 21] Is a directory: {shown}"
  | .tooLong => s!"[Errno 36] File name too long: {shown}"
  | .zero => "embedded null byte"
  | .encoding e => e.message

end NewsSearch
