import NewsSearch.Fault.Dispatch
import NewsSearch.Fault.Setting
import NewsSearch.Fault.Usage
import NewsSearch.Files.Path

/-!
Faults: everything that can go wrong, by cause.

A `Fault` is one of the families of causes.  Its wording is `Fault.message`, and `Fault.kind` sorts
faults into the few kinds by which callers tell them apart.
-/

namespace NewsSearch

open Text

/-- Something that went wrong. -/
inductive Fault where
  | date (fault : DateFault)
  | expression (fault : ExpressionFault)
  | document (fault : DocumentFault)
  | type (fault : TypeFault)
  | value (fault : ValueFault)
  | setting (fault : SettingFault)
  | dispatch (fault : DispatchFault)
  /-- A value of this type lacks the operation. -/
  | noAttribute (typeName name : String)
  /-- There is no field under this key. -/
  | unknownKey (key : String)
  /-- No truth value has this name. -/
  | noTruthValue (name : String)
  /-- A number has no characters at all. -/
  | noCharacter
  /-- An integer is beyond the largest decimal number. -/
  | overflow
  /-- A path does not lead where it should. -/
  | path (fault : PathFault)
  /-- A text has no form in bytes. -/
  | encoding (fault : EncodingFault)
  /-- A failure of the surroundings, with its text. -/
  | failure (text : String)
  deriving DecidableEq, Repr

/-- The kinds by which callers tell faults apart. -/
inductive FaultKind where
  | date
  | expression
  | document
  | type
  | value
  | attribute
  | key
  | index
  | overflow
  | missingFile
  | fileExists
  | notDirectory
  | directory
  /-- Any other failure of the file system. -/
  | fileSystem
  | encoding
  | dispatch
  | failure
  deriving DecidableEq, Repr

namespace Fault

/-- The wording of a fault. -/
def message : Fault → String
  | date fault => fault.message
  | expression fault => fault.message
  | document fault => fault.message
  | type fault => fault.message
  | value fault => fault.message
  | setting fault => fault.message
  | dispatch fault => fault.message
  | noAttribute typeName name => s!"'{typeName}' object has no attribute '{name}'"
  | unknownKey key => s!"Unknown query field: {key}"
  | noTruthValue name => name
  | noCharacter => "string index out of range"
  | overflow => "int too large to convert to float"
  | path fault => fault.message
  | encoding fault => fault.message
  | failure text => text

/-- The kind of a fault. -/
def kind : Fault → FaultKind
  | date _ => .date
  | expression _ => .expression
  | document _ => .document
  | type (.json .integer) => .value
  | type _ => .type
  | value _ => .value
  | setting fault => if fault.isShape then .type else .value
  | dispatch _ => .dispatch
  | noAttribute .. => .attribute
  | unknownKey _ => .key
  | noTruthValue _ => .key
  | noCharacter => .index
  | overflow => .overflow
  | path fault =>
    match fault.obstacle with
    | .missing => .missingFile
    | .taken => .fileExists
    | .notDirectory => .notDirectory
    | .directory => .directory
    | .tooLong => .fileSystem
    | .zero => .value
    | .encoding _ => .encoding
  | encoding _ => .encoding
  | failure _ => .failure

/-- Whether the fault lies in a date, an expression or a document. -/
def isQueryFault (fault : Fault) : Bool :=
  match fault with
  | date _ | expression _ | document _ => true
  | _ => false

end Fault

end NewsSearch
