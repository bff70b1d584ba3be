import NewsSearch.Proofs.Query.CheckedCondition

/-!
Reading query documents, one key at a time.

`ParsedDocument.readEntries` decides by its key what an entry of an object is: an operator, a field,
a modifier, or nothing that is known.  There is one lemma for each of these (`readEntries_group`,
`readEntries_not`, `readEntries_field`, `readEntries_modifier`, `readEntries_odd`,
`readEntries_unknown`), so that nothing else has to look at the chain of tests inside.  The tests
exclude each other because no field is called like an operator or a modifier.

A whole object is read from its entries when it has some and no modifier in it lacks its field;
`looseModifiers_eq_nil_iff` says when that is so.

At the root there are two keys.  `get?_compiled_query` and `getD_compiled_filter` say what stands
under them in a compiled document, and `strayRootKey?_compiled` that there are no others.
-/

namespace NewsSearch.ParsedDocument

open Calendar

variable (path : String) (object : Record) (item : Data) (rest : List (Scalar × Data))

/-! ## One entry

An entry that is a node is read and put before the nodes of the other entries. -/

/-- An entry that is read as a node, followed by the others. -/
def followedBy (node : Except Fault Node) (others : Except Fault (List Node)) :
    Except Fault (List Node) := do
  let n ← node
  let ns ← others
  .ok (n :: ns)

/-- The key under which combinations are written. -/
def groupKey : Mode → String
  | .all => andKey
  | .any => orKey

/-- No operator is called like a modifier. -/
theorem groupKey_not_modifier (mode : Mode) : groupKey mode ∉ Field.modifierNames := by
  cases mode <;> decide

/-- An operator with a list is read as a combination. -/
theorem readEntries_group [MomentReader] (mode : Mode) :
    readEntries path object ((.text (groupKey mode), item) :: rest) =
      followedBy (readGroup mode (path ++ "." ++ groupKey mode) item)
        (readEntries path object rest) := by
  cases mode with
  | all =>
    have hand : Field.modifierNames.contains andKey = false := by decide
    rw [groupKey, readEntries, hand]
    rfl
  | any =>
    have hor : Field.modifierNames.contains orKey = false := by decide
    have hne : orKey ≠ andKey := by decide
    rw [groupKey, readEntries, hor, if_neg hne]
    rfl

/-- A negation is read as the negation of what it has. -/
theorem readEntries_not [MomentReader] :
    readEntries path object ((.text notKey, item) :: rest) =
      followedBy ((readObject (path ++ "." ++ notKey) item).map .not)
        (readEntries path object rest) := by
  have hnot : Field.modifierNames.contains notKey = false := by decide
  have hne : notKey ≠ andKey := by decide
  have hne' : notKey ≠ orKey := by decide
  rw [readEntries, hnot, if_neg hne, if_neg hne']
  rfl

/-- A field is read with the modifier that the object has for it, wherever that stands. -/
theorem readEntries_field [MomentReader] {f : Field} (hf : f ∈ Field.vocabulary) :
    readEntries path object ((.text f.key, item) :: rest) =
      followedBy (readField f (modifiersFor object f) (path ++ "." ++ f.key) item)
        (readEntries path object rest) := by
  obtain ⟨hmodifier, hand, hor, hnot, hdollar⟩ := Field.key_free f hf
  have hkey : Field.modifierNames.contains f.key = false := by simpa using hmodifier
  rw [readEntries, hkey, if_neg hand, if_neg hor, if_neg hnot, if_neg hdollar,
    Field.ofKey?_key f hf]
  rfl

/-- A modifier is no node of its own. -/
theorem readEntries_modifier [MomentReader] {name : String} (hname : name ∈ Field.modifierNames) :
    readEntries path object ((.text name, item) :: rest) = readEntries path object rest := by
  have hcontains : Field.modifierNames.contains name = true := by simpa using hname
  rw [readEntries, hcontains]
  rfl

/-- An entry under a key that is no text is refused for that. -/
theorem readEntries_odd [MomentReader] {key : Scalar} (hodd : ∀ name, key ≠ .text name) :
    readEntries path object ((key, item) :: rest) =
      .error (key.named fun _ => key.withoutPrefix) := by
  rw [readEntries]
  exact hodd

/-- An entry under a key that is none of these is refused. -/
theorem readEntries_unknown [MomentReader] {key : String} (hmodifier : key ∉ Field.modifierNames)
    (hgroup : ∀ mode, key ≠ groupKey mode) (hnot : key ≠ notKey)
    (hfield : Field.ofKey? key = none) (nodes : List Node) :
    readEntries path object ((.text key, item) :: rest) ≠ .ok nodes := by
  have hkey : Field.modifierNames.contains key = false := by simpa using hmodifier
  have hand : key ≠ andKey := hgroup .all
  have hor : key ≠ orKey := hgroup .any
  intro h
  simp only [readEntries, hkey, hand, hor, hnot, hfield, Bool.false_eq_true, if_false] at h
  split at h <;> cases h

/-! ## Whole objects

An object stands for all of its entries, or for the only one. -/

/-- No modifier is loose exactly when each modifier in the object has its field there. -/
theorem looseModifiers_eq_nil_iff :
    looseModifiers object = [] ↔
      ∀ name ∈ Field.modifierNames, object.contains (.text name) = true →
        hasFieldOf object name = true := by
  unfold looseModifiers
  rw [← List.length_eq_zero_iff, List.length_mergeSort, List.length_eq_zero_iff,
    List.filter_eq_nil_iff]
  refine forall₂_congr fun name _ => ?_
  cases object.contains (.text name) <;> cases hasFieldOf object name <;> simp

/-- An object whose entries are read and none of whose modifiers is loose. -/
theorem readObject_eq_ok [MomentReader] {nodes : List Node} (hne : object ≠ [])
    (hnodes : readEntries path object object = .ok nodes)
    (hloose : looseModifiers object = []) :
    readObject path (.map object) = .ok (Node.allOf nodes) := by
  cases object with
  | nil => exact absurd rfl hne
  | cons entry others =>
    simp only [readObject, hnodes, hloose, bind, Except.bind]

/-- An object that stands for a single node is read as that node. -/
theorem readObject_eq_node [MomentReader] {node : Node} (hne : object ≠ [])
    (hnode : readEntries path object object = .ok [node])
    (hloose : looseModifiers object = []) :
    readObject path (.map object) = .ok node :=
  readObject_eq_ok path object hne hnode hloose

/-- An entry alone that is no modifier has no modifier next to it. -/
theorem looseModifiers_single {key : String} (hkey : key ∉ Field.modifierNames) :
    looseModifiers [(.text key, item)] = [] := by
  rw [looseModifiers_eq_nil_iff]
  intro name hname hcontains
  have heq : key = name := by simpa [Record.contains] using hcontains
  exact absurd (heq ▸ hname) hkey

/-! ## The root of a document

What was compiled is taken apart again. -/

/-- A compiled document has the tree, or an empty object, under the key of the tree. -/
theorem get?_compiled_query (root : Option Node) (filters : Record) :
    (compiled root filters).get? queryKey = some (.map ((root.map Node.document).getD [])) := by
  simp [compiled, Record.get?, Record.find?]

/-- A compiled document has its filters under their key, unless there are none. -/
theorem getD_compiled_filter (root : Option Node) (filters : Record) :
    (compiled root filters).getD filterKey =
      if filters.isEmpty then .null else .map filters := by
  have hne : queryKey ≠ filterKey := by decide
  cases filters <;> simp [compiled, Record.getD, Record.get?, Record.find?, hne]

/-- A compiled document has no other keys. -/
theorem strayRootKey?_compiled (root : Option Node) (filters : Record) :
    strayRootKey? (compiled root filters) = none := by
  cases filters <;> simp [strayRootKey?, compiled, Record.keys]

end NewsSearch.ParsedDocument
