import NewsSearch.Json.Reader
import NewsSearch.Query.FieldValue
import NewsSearch.Query.Filter

/-!
Query documents.

A compiled document is an object with the tree under `$query` and, when there are any, the result
filters under `$filter`.  `compiled` writes it.  `parseDocument` reads it back, and accepts the
shorter forms that the service understands as well:

* an object of several keys means all of them, in order;
* a field may have a single value, a list of values, or one `$and` or `$or` list of values;
* a modifier applies to its field in the object in which it stands, and must have it there.

A fault is reported with the path to the place where it was found.
-/

namespace NewsSearch

open Calendar Text

/-- The key of the tree in a document. -/
def queryKey : String := "$query"

/-- The key of the filters in a document. -/
def filterKey : String := "$filter"

/-- The document for a tree, which may be absent, and filters. -/
def compiled (root : Option Node) (filters : Record) : Record :=
  (.text queryKey, .map ((root.map Node.document).getD [])) ::
    if filters.isEmpty then [] else [(.text filterKey, .map filters)]

/-- What a document holds. -/
structure ParsedDocument where
  root : Node
  filters : Filters

namespace ParsedDocument

/-! ## Fields -/

/-- A value that stands directly under a field. -/
def isNested : Data → Bool
  | .map _ | .list _ => true
  | _ => false

/-- A fault in a condition becomes a fault of the document at its path. -/
def atPath (path : String) : Fault → Fault
  | .expression fault => .document (.expression path fault)
  | .date fault => .document (.date path fault)
  | fault => fault

/-- The conditions for the values under a field. -/
def readValues [MomentReader] (f : Field) (modifiers : List (String × Argument)) (path : String) :
    List Data → Except Fault (List Node)
  | [] => .ok []
  | d :: rest =>
    if isNested d then .error (.document (.nestedValue path))
    else do
      let c ← (Condition.make f (.data d) modifiers).mapError (atPath path)
      let others ← readValues f modifiers path rest
      .ok (.condition c :: others)

/-- The values under a field and how they combine. -/
def fieldValues (f : Field) (path : String) (item : Data) : Except Fault (Mode × List Data) :=
  match item with
  | .map [(.text key, inner)] =>
    if key = andKey ∨ key = orKey then
      match inner with
      | .list values => .ok (if key = andKey then .all else .any, values)
      | _ => .error (.document (.expectedList (path ++ "." ++ key)))
    else .error (.document (.fieldObject path))
  | .map _ => .error (.document (.fieldObject path))
  | .list values => .ok (f.defaultMode, values)
  | d => .ok (f.defaultMode, [d])

/-- The tree for a field and what stands under it. -/
def readField [MomentReader] (f : Field) (modifiers : List (String × Argument)) (path : String)
    (item : Data) : Except Fault Node := do
  let (mode, values) ← fieldValues f path item
  if values.isEmpty then .error (.document (.emptyList path))
  else if !f.multi && 1 < values.length then .error (.document (.severalValues path))
  else (readValues f modifiers path values).map (Node.joined mode)

/-- The modifier that an object gives for a field. -/
def modifiersFor (object : Record) (f : Field) : List (String × Argument) :=
  match f.modifier with
  | none => []
  | some name =>
    match object.get? name with
    | some value => [(name, .data value)]
    | none => []

/-- Whether the object has the field to which the modifier belongs. -/
def hasFieldOf (object : Record) (modifier : String) : Bool :=
  Field.vocabulary.any fun f =>
    decide (f.modifier = some modifier) && object.contains (.text f.key)

/-- The modifiers in an object that lacks their field, in alphabetical order. -/
def looseModifiers (object : Record) : List String :=
  (Field.modifierNames.filter fun name =>
    object.contains (.text name) && !hasFieldOf object name).mergeSort fun a b => decide (a ≤ b)

/-! ## Objects -/

mutual

/-- The tree that an object stands for. -/
def readObject [MomentReader] (path : String) : Data → Except Fault Node
  | .map [] => .error (.document (.emptyObject path))
  | .map entries => do
    let nodes ← readEntries path entries entries
    match looseModifiers entries with
    | [] => .ok (Node.allOf nodes)
    | names => .error (.document (.looseModifiers path names))
  | _ => .error (.document (.expectedObject path))

/-- The trees for the entries of an object, in order; `object` has all of its entries. -/
def readEntries [MomentReader] (path : String) (object : Record) :
    List (Scalar × Data) → Except Fault (List Node)
  | [] => .ok []
  | (.text name, item) :: rest =>
    if Field.modifierNames.contains name then readEntries path object rest
    else do
      let node ←
        if name = andKey then readGroup .all (path ++ "." ++ name) item
        else if name = orKey then readGroup .any (path ++ "." ++ name) item
        else if name = notKey then (readObject (path ++ "." ++ name) item).map .not
        else if name.toList.head? = some '$' then
          .error (.document (.unknownOperator (path ++ "." ++ name)))
        else
          match Field.ofKey? name with
          | none => .error (.document (.unknownField (path ++ "." ++ name)))
          | some f => readField f (modifiersFor object f) (path ++ "." ++ name) item
      let others ← readEntries path object rest
      .ok (node :: others)
  | (key, _) :: _ => .error (key.named fun _ => key.withoutPrefix)

/-- The combination that a list of objects stands for. -/
def readGroup [MomentReader] (mode : Mode) (path : String) : Data → Except Fault Node
  | .list [] => .error (.document (.emptyGroup path))
  | .list objects => (readObjects path 0 objects).map (Node.joined mode)
  | _ => .error (.document (.emptyGroup path))

/-- The trees for the objects of a list; `index` is the place of the first of them. -/
def readObjects [MomentReader] (path : String) (index : Nat) : List Data → Except Fault (List Node)
  | [] => .ok []
  | object :: rest => do
    let node ← readObject (path ++ "[" ++ Number.natText index ++ "]") object
    let others ← readObjects path (index + 1) rest
    .ok (node :: others)

end

/-! ## Documents -/

/-- The first key that may not stand at the root of a document. -/
def strayRootKey? (document : Record) : Option Scalar :=
  document.keys.find? fun key => !(key.same (.text queryKey) || key.same (.text filterKey))

/-- Reads a document that is given as an object. -/
def ofRecord [MomentReader] (document : Record) : Except Fault ParsedDocument :=
  match strayRootKey? document with
  | some key => .error (key.named fun name => .document (.unknownRootKey name))
  | none =>
    match document.get? queryKey with
    | none => .error (.document .missingQuery)
    | some query => do
      let root ← readObject queryKey query
      let filters ← Filters.parse (.data (document.getD filterKey))
      .ok ⟨root, filters⟩

/-- Reads a document that is given as JSON text or as an object. -/
def parse [MomentReader] (source : Data) : Except Fault ParsedDocument :=
  match source with
  | .text s =>
    match Json.read s with
    | .ok (.map document) => ofRecord document
    | .ok _ => .error (.document .notAnObject)
    | .error (.tooManyDigits digits) => .error (.value (.integer (.tooManyDigits digits)))
    | .error fault => .error (.document (.notJson fault))
  | .map document => ofRecord document
  | _ => .error (.document .notAnObject)

/-- The document that reads as this one, in its full form. -/
def document (p : ParsedDocument) : Record := compiled (some p.root) p.filters.document

example : ((parse (.map [(.text "$query", .map [(.text "lang",
    .list [.text "eng", .text "deu"])])])).toOption.map fun p => p.root.typeName) = some "Or" := by
  decide +kernel

end ParsedDocument

end NewsSearch
