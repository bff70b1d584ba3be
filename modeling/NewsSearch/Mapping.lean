import NewsSearch.Fault

/-!
Values that serve as mappings.

Where a mapping is expected, another value may be given.  There are two ways to take it: to ask the
value for its entries, which only a mapping has, or to gather the entries from it, for which a
sequence of pairs will do as well.  A mapping gives its own entries either way.
-/

namespace NewsSearch.Data

/-- The entries of a mapping; other values lack the operation by which they are asked for. -/
def entriesBy (operation : String) (d : Data) : Except Fault Record :=
  match d with
  | .map entries => .ok entries
  | d => .error (.noAttribute d.fullTypeName operation)

/-- The entries of a list of pairs whose first element has the given place; each element must have
    two parts, and the first of them must be able to be a key. -/
def pairEntries : Nat → List Data → Except Fault (List (Scalar × Data))
  | _, [] => .ok []
  | i, d :: rest =>
    match d.elements? with
    | none => .error (.type (.notEntry i))
    | some [key, value] =>
      match key.unhashable? with
      | some typeName => .error (.type (.unhashable typeName))
      | none => (pairEntries (i + 1) rest).map ((key.whole, value) :: ·)
    | some parts => .error (.value (.entry i parts.length))

/-- The elements of a value, or the fault that it has none to run over. -/
def elements (d : Data) : Except Fault (List Data) :=
  match d.elements? with
  | some ds => .ok ds
  | none => .error (.type (.notIterable d.fullTypeName))

/-- The entries of a mapping, or those gathered from a sequence of pairs. -/
def gathered (d : Data) : Except Fault Record :=
  match d with
  | .map entries => .ok entries
  | d => do
    let pairs ← pairEntries 0 (← d.elements)
    .ok (Record.ofPairs pairs)

/-- The entries gathered from a value that may be missing: what counts as false gives none. -/
def optionalEntries (d : Data) : Except Fault Record :=
  if d.truthy then d.gathered else .ok []

/-- A mapping is asked for its own entries. -/
@[simp] theorem entriesBy_map (operation : String) (r : Record) :
    entriesBy operation (.map r) = .ok r := rfl

/-- Its own entries are gathered from a mapping. -/
@[simp] theorem gathered_map (r : Record) : gathered (.map r) = .ok r := rfl

/-- A mapping that may be missing gives its own entries, none when it is empty. -/
@[simp] theorem optionalEntries_map (r : Record) : optionalEntries (.map r) = .ok r := by
  cases r <;> rfl

example : (gathered (.list [.tuple [.text "a", .int 1]])).toOption.map Record.keys |>.isSome := by
  decide +kernel
example : (gathered (.list [.int 1])).toOption.isNone := by decide +kernel

end NewsSearch.Data
