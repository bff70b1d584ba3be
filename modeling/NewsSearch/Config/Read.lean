import NewsSearch.Mapping
import NewsSearch.Data.Display
import NewsSearch.Text.Blank

/-!
Reading settings.

Each function here takes a loosely typed setting and its path, and gives the setting in its proper
type or a fault that names the path.
-/

namespace NewsSearch.Config

open Text

/-- The fault of a setting that does not have the shape it must have. -/
def wrongShape (key : String) (expected : Shape) : Fault := .setting (.shape key expected)

/-- An object of the configuration; nothing stands for an empty one unless it is required. -/
def objectAt (raw : Record) (key : String) (required : Bool) : Except Fault Record :=
  match raw.getD key with
  | .null => if required then .error (.setting (.missing key)) else .ok []
  | .map entries => .ok entries
  | _ => .error (wrongShape key .object)

/-- The value of a required setting of an object; `key` is its path. -/
def required (entries : Record) (name key : String) : Except Fault Data :=
  match entries.get? name with
  | some value => .ok value
  | none => .error (.setting (.missing key))

/-- Whether a text occurs within another. -/
def occursIn (part whole : List Char) : Bool :=
  match whole with
  | [] => part.isEmpty
  | _ :: rest => part.isPrefixOf whole || occursIn part rest

/-- The value of a required setting of a value that should be an object.  In another value the name
    may occur, but nothing is found under it. -/
def requiredOf (value : Data) (name key : String) : Except Fault Data :=
  let found (there : Bool) : Except Fault Data :=
    if there then .error (.type (.namedElement value.typeName))
    else .error (.setting (.missing key))
  match value with
  | .map entries => required entries name key
  | .text s => found (occursIn name.toList s.toList)
  | .list items | .tuple items => found (items.any fun item => item.same (.text name))
  | _ => .error (.type (.notContainer value.fullTypeName))

/-- A text. -/
def text (value : Data) (key : String) : Except Fault String :=
  match value with
  | .text s => .ok s
  | _ => .error (wrongShape key .text)

/-- A text that may be missing; a blank one counts as missing. -/
def optionalText (value : Data) (key : String) : Except Fault (Option String) :=
  match value with
  | .null => .ok none
  | _ => do
    let stripped := strip (← text value key)
    .ok (if stripped.isEmpty then none else some stripped)

/-- A truth value. -/
def truthValue (value : Data) (key : String) : Except Fault Bool :=
  match value with
  | .bool b => .ok b
  | _ => .error (wrongShape key .truthValue)

/-- An integer. -/
def integer (value : Data) (key : String) : Except Fault Int :=
  match value with
  | .int n => .ok n
  | _ => .error (wrongShape key .integer)

/-- A number; an integer must not be beyond the largest double. -/
def number (value : Data) (key : String) : Except Fault Float :=
  match value with
  | .float x => .ok x
  | .int n =>
    match Number.ofInt? n with
    | some x => .ok x
    | none => .error .overflow
  | _ => .error (wrongShape key .number)

/-- An object whose keys are texts. -/
def object (value : Data) (key : String) : Except Fault Record :=
  match value with
  | .map entries =>
    if entries.all fun (k, _) => k matches .text _ then .ok entries
    else .error (.setting (.keys key))
  | _ => .error (wrongShape key .object)

/-- The texts of a list whose first element has the given place. -/
def textsFrom (key : String) : Nat → List Data → Except Fault (List String)
  | _, [] => .ok []
  | i, value :: rest => do
    let s ← text value s!"{key}[{Number.natText i}]"
    let others ← textsFrom key (i + 1) rest
    .ok (s :: others)

/-- A list of texts. -/
def texts (value : Data) (key : String) : Except Fault (List String) :=
  match value with
  | .list values => textsFrom key 0 values
  | _ => .error (wrongShape key .list)

/-- Refuses a blank text. -/
def notBlank (s key : String) : Except Fault Unit :=
  if isBlankText s then .error (.setting (.blank key)) else .ok ()

/-- Refuses a blank text, and a value without blanks to strip. -/
def notBlankValue (value : Data) (key : String) : Except Fault Unit :=
  match value with
  | .text s => notBlank s key
  | d => .error (.noAttribute d.fullTypeName "strip")

end NewsSearch.Config
