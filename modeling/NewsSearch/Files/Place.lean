import NewsSearch.Files.Path

/-!
Places.

A place is where a path leads: a directory from which one starts and the names below it.  One starts
at the root of all directories, or at the directory so many levels above the one in which the
program works.  Following a name leads to a new place; double dots lead to the directory above, also
out of the directory in which the program works, and from the root back to the root.

`Path.place` follows all names of a path without asking what is there.
-/

namespace NewsSearch

/-- A directory from which places are counted. -/
inductive Base where
  /-- The root of all directories. -/
  | root
  /-- The directory so many levels above the one in which the program works. -/
  | above (levels : Nat)
  deriving DecidableEq, Repr

/-- A place for a file or a directory. -/
structure Place where
  base : Base
  names : List String
  deriving DecidableEq, Repr

namespace Place

/-- The directory in which the program works. -/
def here : Place := ⟨.above 0, []⟩

/-- The place above another one. -/
def parent : Place → Place
  | ⟨.root, []⟩ => ⟨.root, []⟩
  | ⟨.above levels, []⟩ => ⟨.above (levels + 1), []⟩
  | ⟨base, names⟩ => ⟨base, names.dropLast⟩

/-- The place to which a name leads. -/
def next (p : Place) (name : String) : Place :=
  if name = "." then p
  else if name = ".." then p.parent
  else { p with names := p.names ++ [name] }

/-- The places on the way from the base, the base first and the place itself left out. -/
def ancestors (p : Place) : List Place :=
  (List.range p.names.length).map fun n => { p with names := p.names.take n }

/-- The shortest text that names the place. -/
def text (p : Place) : String :=
  match p.base with
  | .root => "/" ++ "/".intercalate p.names
  | .above levels => "/".intercalate (List.replicate levels ".." ++ p.names)

/-- Whether the place is below the directory in which the program works. -/
def isInside (p : Place) : Bool := p.base = .above 0

end Place

namespace Path

/-- The place at which a path starts. -/
def start (p : Path) : Place := if p.root = "" then .here else ⟨.root, []⟩

/-- The place to which the path leads if nothing is in the way. -/
def place (p : Path) : Place := p.names.foldl Place.next p.start

/-- The place of a path below another one is reached from the place of that path. -/
theorem place_append (p : Path) (names : List String) :
    ({ p with names := p.names ++ names } : Path).place = names.foldl Place.next p.place := by
  simp only [place, start, List.foldl_append]

end Path

example : (Path.ofText "a/../b").place = (Path.ofText "b").place := by decide +kernel
example : (Path.ofText "../a").place = ⟨.above 1, ["a"]⟩ := by decide +kernel
example : (Path.ofText "/../a").place = ⟨.root, ["a"]⟩ := by decide +kernel
example : (Path.ofText "a/../../b").place.text = "../b" := by decide +kernel

end NewsSearch
