import NewsSearch.Data.Wording
import NewsSearch.Query.Node

/-!
Arguments: what may be given where a search is described.

A field takes data, a list of data, or a wrapper that says how its values combine; a combination
takes query trees.  Since either may be given where the other is expected, and inside lists, an
`Argument` can be any of them, and the functions here and in the following modules say which is
accepted where.

The second half builds query trees from arguments.
-/

namespace NewsSearch

/-- Whether the condition holds an integer of too many digits to be written out. -/
def Condition.isTooLong (c : Condition) : Bool :=
  c.value.isTooLong || c.modifiers.any (·.2.isTooLong)

/-- Whether a condition of the tree does. -/
def Node.isTooLong (n : Node) : Bool := n.conditions.any (·.isTooLong)

/-- Something given to a search or to a combination. -/
inductive Argument where
  | data (d : Data)
  | list (items : List Argument)
  | tuple (items : List Argument)
  | map (entries : List (Scalar × Argument))
  /-- Values together with the way in which they combine. -/
  | wrapped (mode : Mode) (values : List Argument)
  | node (n : Node)

namespace Argument

instance : Coe Data Argument := ⟨.data⟩

instance : Inhabited Argument := ⟨.data .null⟩

/-- The data that the arguments are, when all of them are data. -/
def dataItems? (items : List Argument) : Option (List Data) :=
  items.mapM fun
    | data d => some d
    | _ => none

/-- A list, as data when all of its items are. -/
def ofList (items : List Argument) : Argument :=
  match dataItems? items with
  | some ds => data (.list ds)
  | none => list items

/-- A tuple, as data when all of its items are. -/
def ofTuple (items : List Argument) : Argument :=
  match dataItems? items with
  | some ds => data (.tuple ds)
  | none => tuple items

/-- A mapping, as data when all of its values are. -/
def ofEntries (entries : List (Scalar × Argument)) : Argument :=
  match dataItems? (entries.map (·.2)) with
  | some ds => data (.map (Record.ofPairs ((entries.map (·.1)).zip ds)))
  | none => map entries

/-- The name of the argument's type. -/
def typeName : Argument → String
  | data d => d.typeName
  | list _ => "list"
  | tuple _ => "tuple"
  | map _ => "dict"
  | wrapped .. => "QueryItems"
  | node n => n.typeName

/-- The name of the argument's type with its family. -/
def fullTypeName : Argument → String
  | data d => d.fullTypeName
  | a => a.typeName

/-- Whether nothing is given. -/
def isNull : Argument → Bool
  | data .null => true
  | _ => false

/-- The items of a list or a tuple. -/
def items? : Argument → Option (List Argument)
  | data (.list ds) => some (ds.map data)
  | data (.tuple ds) => some (ds.map data)
  | list as => some as
  | tuple as => some as
  | _ => none

/-- The entries of a mapping. -/
def entries? : Argument → Option (List (Scalar × Argument))
  | data (.map es) => some (es.map fun (k, v) => (k, data v))
  | map es => some es
  | _ => none

/-- The elements that the argument runs over. -/
def elements? : Argument → Option (List Argument)
  | data d => d.elements?.map (·.map data)
  | list as => some as
  | tuple as => some as
  | map es => some (es.map fun (k, _) => data (.ofKey k))
  | _ => none

mutual

/-- The type that keeps the argument out of a set. -/
def unhashable? : Argument → Option String
  | data d => d.unhashable?
  | list _ => some "list"
  | map _ => some "dict"
  | tuple as => firstUnhashable? as
  | wrapped _ as => firstUnhashable? as
  | node n => n.unhashable?

/-- The first type among the arguments that keeps one out of a set. -/
def firstUnhashable? : List Argument → Option String
  | [] => none
  | a :: rest => (unhashable? a).or (firstUnhashable? rest)

end

/-- Refuses a list in which some element cannot be an entry of a mapping: each must have two parts,
    and the first of them may not be a list or a mapping.  `i` is the place of the first element. -/
def checkEntries : Nat → List Argument → Except Fault Unit
  | _, [] => .ok ()
  | i, a :: rest =>
    match a.elements? with
    | none => .error (.type (.notEntry i))
    | some [key, _] =>
      match key.unhashable? with
      | some typeName => .error (.type (.unhashable typeName))
      | none => checkEntries (i + 1) rest
    | some parts => .error (.value (.entry i parts.length))

/-- A way to combine values as messages show it. -/
def shownMode : Mode → String
  | .all => "<CombineMode.ALL: 'and'>"
  | .any => "<CombineMode.ANY: 'or'>"

mutual

/-- The argument as messages show it. -/
def shown : Argument → String
  | data d => d.shown
  | list items => "[" ++ ", ".intercalate (shownItems items) ++ "]"
  | tuple items => Scalar.parenthesized (shownItems items)
  | map entries => "\x7b" ++ ", ".intercalate (shownEntries entries) ++ "\x7d"
  | wrapped mode values =>
    "QueryItems(mode=" ++ shownMode mode ++ ", values=" ++
      Scalar.parenthesized (shownItems values) ++ ")"
  | node n => n.shown

/-- Each argument as messages show it. -/
def shownItems : List Argument → List String
  | [] => []
  | a :: rest => shown a :: shownItems rest

/-- Each entry as messages show it: key, colon, argument. -/
def shownEntries : List (Scalar × Argument) → List String
  | [] => []
  | (k, a) :: rest => (k.shown ++ ": " ++ shown a) :: shownEntries rest

end

mutual

/-- Whether an integer in the argument has too many digits to be written out. -/
def isTooLong : Argument → Bool
  | data d => d.isTooLong
  | list items => anyTooLong items
  | tuple items => anyTooLong items
  | map entries => anyEntryTooLong entries
  | wrapped _ values => anyTooLong values
  | node n => n.isTooLong

/-- Whether one of the arguments cannot be written out. -/
def anyTooLong : List Argument → Bool
  | [] => false
  | a :: rest => isTooLong a || anyTooLong rest

/-- Whether a key or an argument among the entries cannot be written out. -/
def anyEntryTooLong : List (Scalar × Argument) → Bool
  | [] => false
  | (k, a) :: rest => k.isTooLong || isTooLong a || anyEntryTooLong rest

end

/-- Whether the argument counts as true. -/
def truthy : Argument → Bool
  | data d => d.truthy
  | list as => !as.isEmpty
  | tuple as => !as.isEmpty
  | map es => !es.isEmpty
  | _ => true

/-- Wraps values with the way in which they combine.  A text is a single value. -/
def wrap (mode : Mode) (a : Argument) : Except Fault Argument :=
  match a with
  | data (.text _) => .ok (.wrapped mode [a])
  | _ =>
    match a.elements? with
    | none => .error (.type (.notIterable a.fullTypeName))
    | some [] => .error (.expression .noItems)
    | some as => .ok (.wrapped mode as)

end Argument

/-! ## Trees from arguments -/

namespace Node

/-- The children among the arguments; the first argument that is no tree is a fault. -/
def childrenFrom (mode : Mode) : Nat → List Argument → Except Fault (List Node)
  | _, [] => .ok []
  | i, .node n :: rest => (childrenFrom mode (i + 1) rest).map (n :: ·)
  | i, a :: _ => .error (.expression (.child mode i a.typeName))

/-- The combination of some trees. -/
def combination (mode : Mode) (children : List Node) : Node :=
  match mode with
  | .all => .all children
  | .any => .any children

/-- Combines arguments, each of which must be a tree; there must be at least one. -/
def combine (mode : Mode) (arguments : List Argument) : Except Fault Node :=
  if arguments.isEmpty then .error (.expression (.noChildren mode))
  else (childrenFrom mode 0 arguments).map (combination mode)

/-- Children may be given one by one or as a single list or tuple. -/
def gather (arguments : List Argument) : List Argument :=
  match arguments with
  | [a] => a.items?.getD [a]
  | as => as

/-- The negation of an argument that must be a tree. -/
def negate (a : Argument) : Except Fault Node :=
  match a with
  | .node n => .ok (.not n)
  | _ => .error (.expression (.negatedValue a.typeName))

/-- The tree without the matches of `exclude`, which may be left out. -/
def without (n : Node) (exclude : Argument) : Except Fault Node :=
  if exclude.isNull then .ok n else (negate exclude).map fun excluded => .all [n, excluded]

/-- Combines arguments, given one by one or as one list, and removes the matches of `exclude`. -/
def combineWithout (mode : Mode) (arguments : List Argument) (exclude : Argument) :
    Except Fault Node := do
  (← combine mode (gather arguments)).without exclude

/-- Arguments that are accepted as children are trees, and these trees are the children. -/
theorem childrenFrom_ok {mode : Mode} {arguments : List Argument} {i : Nat} {ns : List Node}
    (h : childrenFrom mode i arguments = .ok ns) : arguments = ns.map .node := by
  induction arguments generalizing i ns with
  | nil => simp [childrenFrom] at h; simp [← h]
  | cons a rest ih =>
    cases a with
    | node n =>
      simp only [childrenFrom] at h
      cases hr : childrenFrom mode (i + 1) rest with
      | error e => simp [hr, Except.map] at h
      | ok ms =>
        simp only [hr, Except.map, Except.ok.injEq] at h
        simp [← h, ih hr]
    | _ => simp [childrenFrom] at h

end Node

end NewsSearch
