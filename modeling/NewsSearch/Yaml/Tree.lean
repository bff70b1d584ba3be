import NewsSearch.Data.Basic
import NewsSearch.Yaml.Scalar

/-!
The tree of a document, and the value that it stands for.

A `Tree` is what has been written: scalars that are still text, each with its kind, lists, and
mappings with their entries in order.  The entries that a mapping merges in come before its own, so
that its own win.

A document may be at fault in several places.  The value of a list or a mapping is made after those
of everything around it, so of several faults the one nearest to the root counts, and of equally
near ones the first; an entry that is merged in counts where it is merged in.
-/

namespace NewsSearch.Yaml

/-- What a document is made of. -/
inductive Tree where
  | scalar (kind : ScalarKind) (text : String)
  | list (items : List Tree)
  | map (entries : List (Tree × Tree))
  /-- A set: the keys of a mapping. -/
  | set (entries : List (Tree × Tree))
  /-- A list of pairs. -/
  | pairs (entries : List (Tree × Tree))
  /-- A node that is not what its tag says; the fault counts as being so deep below it. -/
  | misfit (depth : Nat) (node : Tree)

/-! ## Faults by depth -/

/-- A fault, and how deep below the present tree it is. -/
structure DeepFault where
  depth : Nat
  fault : Fault

/-- A result, or the fault that counts. -/
abbrev Valued (α : Type) := Except DeepFault α

namespace Valued

variable {α β : Type}

/-- A result at the present tree itself. -/
def here (x : Except Fault α) : Valued α := x.mapError fun fault => ⟨0, fault⟩

/-- A result from one level below. -/
def below (x : Valued α) : Valued α := x.mapError fun f => { f with depth := f.depth + 1 }

/-- Two results; of two faults the less deep one counts, and of equally deep ones the first. -/
def both (x : Valued α) (y : Valued β) : Valued (α × β) :=
  match x, y with
  | .ok a, .ok b => .ok (a, b)
  | .error f, .ok _ => .error f
  | .ok _, .error g => .error g
  | .error f, .error g => .error (if g.depth < f.depth then g else f)

/-- The fault of two results is never deeper than the fault of the first one. -/
theorem depth_both_le {f : DeepFault} {y : Valued β} :
    ∃ g, both (.error f : Valued α) y = .error g ∧ g.depth ≤ f.depth := by
  cases y with
  | ok b => exact ⟨f, rfl, Nat.le_refl _⟩
  | error g =>
    by_cases h : g.depth < f.depth
    · exact ⟨g, by simp [both, h], Nat.le_of_lt h⟩
    · exact ⟨f, by simp [both, h], Nat.le_refl _⟩

end Valued

/-! ## Entries -/

/-- Whether the scalar is no number. -/
def isNotANumber : Scalar → Bool
  | .float x => Number.parts x == .nan
  | _ => false

/-- The pairs with the first key that is no number having the value `last`, and no other such
    key. -/
def withOneNotANumber (last : Data) : List (Scalar × Data) → List (Scalar × Data)
  | [] => []
  | (k, v) :: rest =>
    if isNotANumber k then (k, last) :: rest.filter (!isNotANumber ·.1)
    else (k, v) :: withOneNotANumber last rest

/-- The mapping that results from setting the pairs one after the other.  What is no number is a
    single key, although it is not the same as itself. -/
def recordOf (pairs : List (Scalar × Data)) : Record :=
  match (pairs.filter (isNotANumber ·.1)).getLast? with
  | some (_, last) => Record.ofPairs (withOneNotANumber last pairs)
  | none => Record.ofPairs pairs

/-- The members of a set as messages show them. -/
def shownSet (members : List Scalar) : String :=
  if members.isEmpty then "set()"
  else "\x7b" ++ ", ".intercalate (members.map Scalar.shown) ++ "\x7d"

namespace Tree

/-- Whether the key asks to merge. -/
def isMergeKey : Tree → Bool
  | scalar .merge _ => true
  | _ => false

/-- Nothing, as it is written when something is left out. -/
def blank : Tree := scalar .null ""

/-- Why a node with a tag that does not fit has no value. -/
def badTag : Fault := .failure "the tag does not fit the node"

/-- Why a list or a mapping cannot be a key. -/
def badKey : Fault := .failure "a mapping key must be a scalar"

/-- Why a mapping cannot merge what it is told to. -/
def badMerge : Fault := .failure "only mappings can be merged into a mapping"

/-- The scalar that a key stands for; the mark of a default value is a text. -/
def key : Tree → Valued Scalar
  | scalar .value s => .ok (.text s)
  | scalar kind s => .here (kind.read s)
  | _ => .here (.error badKey)

mutual

/-- The value that a tree stands for, or the fault in it that counts. -/
def valued : Tree → Valued Data
  | scalar kind s => .here ((kind.read s).map .scalar)
  | list items => ((valuedItems items).below).map .list
  | map entries =>
    (((mergedEntries entries).both (ownEntries entries)).below).map fun (merged, own) =>
      .map (recordOf (merged ++ own))
  | set entries =>
    (((mergedEntries entries).both (ownEntries entries)).below).map fun (merged, own) =>
      .scalar (.other "set" (shownSet (recordOf (merged ++ own)).keys))
  | pairs entries =>
    ((ownEntries entries).below).map fun own =>
      .list (own.map fun (k, v) => .tuple [.scalar k, v])
  | misfit depth _ => .error ⟨depth, badTag⟩

/-- The values of the items of a list. -/
def valuedItems : List Tree → Valued (List Data)
  | [] => .ok []
  | item :: rest => ((valued item).both (valuedItems rest)).map fun (d, ds) => d :: ds

/-- The entries of a mapping that it does not merge in. -/
def ownEntries : List (Tree × Tree) → Valued (List (Scalar × Data))
  | [] => .ok []
  | (k, value) :: rest =>
    if k.isMergeKey then ownEntries rest
    else (((key k).both (valued value)).both (ownEntries rest)).map fun (entry, entries) =>
      entry :: entries

/-- The entries that a mapping merges in. -/
def mergedEntries : List (Tree × Tree) → Valued (List (Scalar × Data))
  | [] => .ok []
  | (k, value) :: rest =>
    if k.isMergeKey then
      ((contributed value).both (mergedEntries rest)).map fun (first, others) => first ++ others
    else mergedEntries rest

/-- The entries that a mapping or a list of mappings contributes when it is merged in.  Its tag does
    not count. -/
def contributed : Tree → Valued (List (Scalar × Data))
  | map entries | set entries =>
    ((mergedEntries entries).both (ownEntries entries)).map fun (merged, own) => merged ++ own
  | list items => contributedItems items
  | pairs entries => contributedPairs entries
  | misfit _ node => contributed node
  | _ => .here (.error badMerge)

/-- The entries that mappings of one entry each contribute: the first comes last, so that it
    wins. -/
def contributedPairs : List (Tree × Tree) → Valued (List (Scalar × Data))
  | [] => .ok []
  | (k, value) :: rest =>
    let first :=
      if k.isMergeKey then contributed value
      else ((key k).both (valued value)).map fun entry => [entry]
    ((contributedPairs rest).both first).map fun (others, own) => others ++ own

/-- The entries that the mappings of a list contribute: those of the first come last, so that they
    win. -/
def contributedItems : List Tree → Valued (List (Scalar × Data))
  | [] => .ok []
  | map entries :: rest | set entries :: rest =>
    ((contributedItems rest).both ((mergedEntries entries).both (ownEntries entries))).map
      fun (others, merged, own) => others ++ merged ++ own
  | misfit _ (map entries) :: rest =>
    ((contributedItems rest).both ((mergedEntries entries).both (ownEntries entries))).map
      fun (others, merged, own) => others ++ merged ++ own
  | _ :: _ => .here (.error badMerge)

end

/-- The value that a tree stands for. -/
def data (t : Tree) : Except Fault Data := t.valued.mapError (·.fault)

example : (data (.map [(.scalar .merge "<<", .map [(.scalar .text "a", .scalar .int "1")]),
    (.scalar .text "a", .scalar .int "2")])) matches .ok (.map [(.text "a", .int 2)]) := by
  decide +kernel

example : (data (.list [.list [.scalar .int "x"], .scalar .int "y"])).toOption.isNone = true := by
  decide +kernel

end Tree

end NewsSearch.Yaml
