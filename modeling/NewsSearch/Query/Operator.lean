import NewsSearch.Number.Bits
import NewsSearch.Query.Argument

/-!
Operators on arguments.

Query trees are joined with `&` and `|` and negated with `~`; the tree must stand on the left, and
the other side must be a tree as well.  Arguments that are no trees keep the meaning that the
operators have for them: truth values and whole numbers are joined bit by bit, and `|` adds the
entries of a mapping to another one.
-/

namespace NewsSearch

namespace Mode

/-- The operator that joins two arguments. -/
def operator : Mode → String
  | all => "&"
  | any => "|"

/-- Joins two truth values. -/
def joinBits : Mode → Bool → Bool → Bool
  | all, a, b => a && b
  | any, a, b => a || b

/-- Joins two whole numbers bit by bit. -/
def joinIntegers : Mode → Int → Int → Int
  | all, a, b => Number.bitAnd a b
  | any, a, b => Number.bitOr a b

end Mode

namespace Argument

/-- Sets an entry: in place when the key is there, otherwise at the end. -/
def insertEntry (key : Scalar) (value : Argument) :
    List (Scalar × Argument) → List (Scalar × Argument)
  | [] => [(key, value)]
  | (k, v) :: rest =>
    if k.same key then (k, value) :: rest else (k, v) :: insertEntry key value rest

/-- The mapping of one argument with the entries of another, when both are mappings. -/
def merge? (left right : Argument) : Option Argument := do
  let entries ← left.entries?
  let changes ← right.entries?
  some (ofEntries (changes.foldl (fun es (k, v) => insertEntry k v es) entries))

/-- What two arguments that are no trees give when they are joined. -/
def joinPlain? (mode : Mode) (left right : Argument) : Option Argument :=
  match left, right with
  | .data (.bool a), .data (.bool b) => some (.data (.bool (mode.joinBits a b)))
  | .data (.scalar a), .data (.scalar b) => do
    let m ← a.integer?
    let n ← b.integer?
    some (.data (.int (mode.joinIntegers m n)))
  | _, _ => if mode = .any then merge? left right else none

/-- Two arguments joined by an operator. -/
def join (mode : Mode) (left right : Argument) : Except Fault Argument :=
  match left with
  | .node _ => (Node.combine mode [left, right]).map .node
  | _ =>
    match joinPlain? mode left right with
    | some joined => .ok joined
    | none =>
      .error (.type (.operands mode.operator left.fullTypeName right.fullTypeName))

/-- What the operator of negation gives. -/
def negated (a : Argument) : Except Fault Argument :=
  match a with
  | .node n => .ok (.node (.not n))
  | .data (.bool b) => .ok (.data (.int (Number.complement (if b then 1 else 0))))
  | .data (.int n) => .ok (.data (.int (Number.complement n)))
  | _ => .error (.type (.operand a.fullTypeName))

/-- Joining two trees combines them. -/
theorem join_node (mode : Mode) (m n : Node) :
    join mode (.node m) (.node n) = .ok (.node (Node.combination mode [m, n])) := rfl

end Argument

end NewsSearch
