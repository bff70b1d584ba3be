import NewsSearch.Files.Place

/-!
Trees of files.

A `FileTree` holds the texts of files and the directories, by place.  The bases from which places
are counted are directories always; of what else lies outside nothing is known.

A path is followed name by name, and every name is looked up in a directory: `walk` ends at the
first obstacle.  Reading, writing and making a directory look at what stands at the end of the way.
`makeDirectories` makes the directories that lead to a path too, and lets a directory that is there
already be.
-/

namespace NewsSearch

open Text

/-- What stands at a place. -/
inductive Entry where
  | file (text : String)
  | directory
  deriving DecidableEq, Repr

/-- The texts of files, and the directories, by place. -/
structure FileTree where
  files : List (Place × String)
  directories : List Place
  deriving Repr

namespace FileTree

/-- The tree of the files that stand at the given paths with the given texts. -/
def ofTexts (texts : List (String × String)) : FileTree where
  files := texts.map fun (path, text) => ((Path.ofText path).place, text)
  directories := texts.flatMap fun (path, _) => (Path.ofText path).place.ancestors

/-- What stands at a place. -/
def entry? (t : FileTree) (place : Place) : Option Entry :=
  match t.files.find? fun (other, _) => other = place with
  | some (_, text) => some (.file text)
  | none => if place.names.isEmpty || t.directories.contains place then some .directory else none

/-- The place to which names lead from another one, each looked up in a directory. -/
def walk (t : FileTree) : Place → List String → Except PathObstacle Place
  | place, [] => .ok place
  | place, name :: rest =>
    match t.entry? place with
    | none => .error .missing
    | some (.file _) => .error .notDirectory
    | some .directory =>
      if 255 < nameSize name then .error .tooLong else walk t (place.next name) rest

/-- Refuses a path that cannot be looked up at all. -/
def wellFormed (p : Path) : Except PathObstacle Unit :=
  match nameFault? p.text with
  | some fault => .error (.encoding fault)
  | none =>
    if p.text.toList.contains '\x00' then .error .zero else .ok ()

/-- The place to which a path leads, each of its names looked up in a directory. -/
def reach (t : FileTree) (p : Path) : Except PathObstacle Place := do
  wellFormed p
  if 4096 ≤ nameSize p.text then .error .tooLong else t.walk p.start p.names

/-- What stands where a path leads. -/
def lookUp (t : FileTree) (p : Path) : Except PathObstacle Entry := do
  match t.entry? (← t.reach p) with
  | some entry => .ok entry
  | none => .error .missing

/-- Whether the path leads to a file. -/
def isFile (t : FileTree) (p : Path) : Bool :=
  match t.lookUp p with
  | .ok (.file _) => true
  | _ => false

/-- Whether the path leads to a directory. -/
def isDirectory (t : FileTree) (p : Path) : Bool :=
  match t.lookUp p with
  | .ok .directory => true
  | _ => false

/-- An obstacle on a path. -/
def blame {α : Type} (p : Path) (r : Except PathObstacle α) : Except PathFault α :=
  r.mapError fun obstacle => ⟨obstacle, p.text⟩

/-! ## Reading -/

/-- The text with its line ends in one form. -/
def withLineFeeds : List Char → List Char
  | '\r' :: '\n' :: rest => '\n' :: withLineFeeds rest
  | c :: rest => (if c = '\r' then '\n' else c) :: withLineFeeds rest
  | [] => []

/-- The text of the file to which a path leads, as it is read. -/
def read (t : FileTree) (p : Path) : Except PathFault String := blame p do
  match ← t.lookUp p with
  | .file text => .ok (String.ofList (withLineFeeds text.toList))
  | .directory => .error .directory

/-! ## Writing -/

/-- The tree with a file of the given text at a place. -/
def put (t : FileTree) (place : Place) (text : String) : FileTree :=
  { t with files := (place, text) :: t.files.filter (·.1 ≠ place) }

/-- The text of the file at a place; nothing where there is no file. -/
def textAt (t : FileTree) (place : Place) : String :=
  match t.entry? place with
  | some (.file text) => text
  | _ => ""

/-- The place of the file to which a path leads; where nothing is, there is an empty file then. -/
def openFile (t : FileTree) (p : Path) : Except PathFault (FileTree × Place) := blame p do
  let place ← t.reach p
  match t.entry? place with
  | some .directory => .error .directory
  | _ => .ok (t.put place (t.textAt place), place)

/-- The tree with a text added at the end of a file. -/
def append (t : FileTree) (place : Place) (text : String) : FileTree :=
  t.put place (t.textAt place ++ text)

/-- The files that are not in an earlier tree with the same text. -/
def changedSince (t earlier : FileTree) : List (Place × String) :=
  t.files.filter fun file => !earlier.files.contains file

/-! ## Making directories -/

/-- Makes the directory to which a path leads, in a directory that is there. -/
def makeDirectory (t : FileTree) (p : Path) : Except PathObstacle FileTree := do
  let place ← t.reach p
  if p.names.getLast? = some ".." ∨ (t.entry? place).isSome then .error .taken
  else .ok { t with directories := place :: t.directories }

/-- Makes the directory to which a path leads unless it is there already, and with `depth` left also
    the directories that lead to it. -/
def makeDirectoriesFrom : Nat → FileTree → Path → Except PathFault FileTree
  | depth, t, p =>
    match depth, t.makeDirectory p with
    | _, .ok t => .ok t
    | depth + 1, .error .missing =>
      if p.names = [] then .error ⟨.missing, p.text⟩
      else do
        let t ← makeDirectoriesFrom depth t p.parent
        makeDirectoriesFrom 0 t p
    | _, .error obstacle =>
      if obstacle ≠ .missing ∧ t.isDirectory p then .ok t else .error ⟨obstacle, p.text⟩

/-- Makes the directory to which a path leads, with the directories that lead to it, unless they are
    there already. -/
def makeDirectories (t : FileTree) (p : Path) : Except PathFault FileTree :=
  makeDirectoriesFrom (p.names.length + 1) t p

end FileTree

example : (FileTree.ofTexts [("a/b", "x")]).isDirectory (.ofText "a") = true := by decide +kernel
example : ((FileTree.ofTexts [("a/b", "x")]).read (.ofText "a/b/c")).toOption = none := by
  decide +kernel
example : ((FileTree.ofTexts []).makeDirectories (.ofText "a/../b/c")).toOption.map
    (fun t => t.directories.map Place.text) = some ["b/c", "b", "a"] := by decide +kernel

end NewsSearch
