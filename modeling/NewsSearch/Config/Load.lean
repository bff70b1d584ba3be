import NewsSearch.Config.Merge
import NewsSearch.Config.Settings
import NewsSearch.Files.Tree
import NewsSearch.Yaml.Reader

/-!
Loading settings from files.

A configuration file is laid over the defaults.  The defaults are a file of a fixed path, which may
be missing, a given file, or a given text; they are read first.  A file is never laid over itself:
two paths are those of the same file when they lead to the same place, whatever is on the way.
-/

namespace NewsSearch.Config

/-- The entries that a text has; a text that stands for nothing has none. -/
def entriesOf (text : String) : Except Fault Record := do
  match ← Yaml.read text with
  | .map entries => .ok entries
  | value => if value.truthy then .error (.setting .notMapping) else .ok []

/-- Where the defaults come from. -/
inductive Defaults where
  /-- The file of the standard path, if there is one. -/
  | standard
  | file (path : Path)
  | text (text : String)

/-- The path of the standard defaults. -/
def standardPath : Path := .ofText "config/default.yml"

/-- The entries of a file. -/
def entriesAt (tree : FileTree) (path : Path) : Except Fault Record := do
  entriesOf (← (tree.read path).mapError .path)

/-- The entries of a file laid over those of the file of the defaults. -/
def layeredOn (tree : FileTree) (defaults path : Path) : Except Fault Record := do
  let base ← entriesAt tree defaults
  (FileTree.blame path (FileTree.wellFormed path)).mapError .path
  if path.place = defaults.place then .ok base
  else .ok (merge base (← entriesAt tree path))

/-- The entries of a file laid over the defaults. -/
def layered (tree : FileTree) (defaults : Defaults) (path : Path) : Except Fault Record :=
  match defaults with
  | .standard =>
    if tree.isFile standardPath then layeredOn tree standardPath path
    else entriesAt tree path
  | .file standard => layeredOn tree standard path
  | .text standard => do
    let base ← entriesOf standard
    .ok (merge base (← entriesAt tree path))

/-- Loads the settings of a file over the defaults. -/
def load (environment : Environment) (tree : FileTree) (defaults : Defaults) (path : Path) :
    Except Fault Settings := do
  Settings.read environment (← layered tree defaults path)

end NewsSearch.Config
