import NewsSearch.Proofs.Query.DocumentReading

/-!
Query documents read back as the trees they were written from.

`compiled` writes a tree and its filters as a document, `ParsedDocument.parse` reads a document, and
`Node.normalize` removes combinations of a single part.  The three are recursions of their own over
trees with lists of children.  They are kept in step by one induction over trees and lists of trees
(`readsBack`, `readsBackEach`):

* a condition is written as its field with its modifiers next to it, so reading it makes the
  condition again from its own parts (`readObject_condition`);
* a combination of several parts is written as an operator alone in its object, and so is a
  negation, so reading it does not wrap it once more (`readObject_group`, `readObject_not`);
* a combination of a single part leaves no trace in the document, and none in the normal form.

Two things are asked of the tree.  Every combination has a part, since an empty list under an
operator is refused.  And every condition passes its check unchanged, since reading makes it again:
a value that is normalised on the way would come back as another one.  Where an object stands
matters only for error messages, so that the induction is for all paths.

Filters are entries of a mapping of their own, and are read one by one
(`Filters.parseEntries_document`).

Main statement: `parse_compiled`.
-/

namespace NewsSearch

open Calendar

namespace ParsedDocument

/-! ## Conditions

An object with a condition has one key or two.  In both cases the field finds its modifier in the
object, if it has one, and no modifier is left without its field. -/

/-- What stands under a field as a single value is read as the condition that is made of it. -/
theorem readField_scalar [MomentReader] {f : Field} {s : Scalar}
    {given : List (String × Argument)} {c : Condition} (path : String)
    (hmake : Condition.make f (.data (.scalar s)) given = .ok c) :
    readField f given path (.scalar s) = .ok (.condition c) := by
  have hvalues : readValues f given path [.scalar s] = .ok [.condition c] := by
    simp only [readValues, isNested, hmake]
    rfl
  have hfield : fieldValues f path (.scalar s) = .ok (f.defaultMode, [.scalar s]) := rfl
  rw [readField, hfield]
  simp only [bind, Except.bind, List.isEmpty_cons, List.length_singleton, Nat.lt_irrefl,
    decide_false, Bool.and_false, Bool.false_eq_true, if_false, hvalues]
  cases f.defaultMode <;> rfl

/-- **A condition that passes its check is read back.**  It has no modifier, or the modifier of its
    field alone, and the two cases are two shapes of the object. -/
theorem readObject_condition [MomentReader] {c : Condition} (path : String) (hc : c.IsChecked) :
    readObject path (.map c.document) = .ok (.condition c) := by
  obtain ⟨nodup, f, hkey, hmake⟩ := hc
  obtain ⟨hf, hfield⟩ := Field.mem_vocabulary_of_ofKey? hkey
  obtain ⟨-, hnormal, -⟩ := Condition.make_eq_ok_iff.mp hmake
  obtain ⟨s, hs⟩ := Field.normalizeValue_scalar hnormal
  rw [hs] at hmake
  rcases Condition.IsChecked.modifiers_cases nodup (hs ▸ hmake) with hnil | ⟨name, v, hname, hone⟩
  · -- the field alone: the object has no modifier at all
    have hgiven : modifiersFor [(.text f.key, .scalar s)] f = c.givenModifiers := by
      rw [Condition.givenModifiers, hnil, modifiersFor]
      cases hmodifier : f.modifier with
      | none => rfl
      | some name =>
        have hne := Field.key_ne_modifier hf (Field.mem_modifierNames hf hmodifier)
        simp [Record.get?, Record.find?, hne]
    have hread : readEntries path [(.text f.key, .scalar s)] [(.text f.key, .scalar s)] =
        .ok [.condition c] := by
      rw [readEntries_field _ _ _ _ hf, hgiven, readField_scalar _ hmake]
      rfl
    rw [Condition.document_nil hnil, ← hfield, hs]
    exact readObject_eq_node _ _ (List.cons_ne_nil _ _) hread
      (looseModifiers_single _ (Field.key_free f hf).1)
  · -- the field and its modifier: the modifier is given back to the field
    have hmem := Field.mem_modifierNames hf hname
    have hne := Field.key_ne_modifier hf hmem
    have hgiven : modifiersFor [(.text f.key, .scalar s), (.text name, v)] f =
        c.givenModifiers := by
      rw [Condition.givenModifiers, hone, modifiersFor, hname]
      simp [Record.get?, Record.find?, hne]
    have hread : readEntries path [(.text f.key, .scalar s), (.text name, v)]
        [(.text f.key, .scalar s), (.text name, v)] = .ok [.condition c] := by
      rw [readEntries_field _ _ _ _ hf, hgiven, readField_scalar _ hmake,
        readEntries_modifier _ _ _ _ hmem]
      rfl
    have hloose : looseModifiers [(.text f.key, .scalar s), (.text name, v)] = [] := by
      rw [looseModifiers_eq_nil_iff]
      intro other hother hcontains
      have heq : name = other := by
        simpa [Record.contains, Field.key_ne_modifier hf hother] using hcontains
      rw [hasFieldOf, List.any_eq_true]
      exact ⟨f, hf, by simp [Record.contains, hname, heq]⟩
    rw [Condition.document_singleton hone (hfield ▸ hne), ← hfield, hs]
    exact readObject_eq_node _ _ (List.cons_ne_nil _ _) hread hloose

/-! ## Operators

An operator is the only key of its object, so that the object stands for what is under the operator.
-/

/-- A list under an operator is read as the combination of what its objects are read as. -/
theorem readObject_group [MomentReader] {objects : List Data} {nodes : List Node} (mode : Mode)
    (path : String) (hobjects : objects ≠ [])
    (hnodes : readObjects (path ++ "." ++ groupKey mode) 0 objects = .ok nodes) :
    readObject path (.map [(.text (groupKey mode), .list objects)]) =
      .ok (Node.joined mode nodes) := by
  have hgroup : readGroup mode (path ++ "." ++ groupKey mode) (.list objects) =
      .ok (Node.joined mode nodes) := by
    cases objects with
    | nil => exact absurd rfl hobjects
    | cons object others =>
      simp only [readGroup, hnodes]
      rfl
  have hread : readEntries path [(.text (groupKey mode), .list objects)]
      [(.text (groupKey mode), .list objects)] = .ok [Node.joined mode nodes] := by
    rw [readEntries_group, hgroup]
    rfl
  exact readObject_eq_node _ _ (List.cons_ne_nil _ _) hread
    (looseModifiers_single _ (groupKey_not_modifier mode))

/-- An object under a negation is read as the negation of what it is read as. -/
theorem readObject_not [MomentReader] {object : Data} {node : Node} (path : String)
    (hnode : readObject (path ++ "." ++ notKey) object = .ok node) :
    readObject path (.map [(.text notKey, object)]) = .ok (.not node) := by
  have hread : readEntries path [(.text notKey, object)] [(.text notKey, object)] =
      .ok [.not node] := by
    rw [readEntries_not, hnode]
    rfl
  exact readObject_eq_node _ _ (List.cons_ne_nil _ _) hread
    (looseModifiers_single _ (by decide))

/-! ## Trees

The induction on the tree, with a statement about one tree and one about several. -/

/-- A combination of two or more parts is written as the list of their documents, under its
    operator. -/
theorem document_group {mode : Mode} {a b : Node} {rest : List Node} :
    (Node.combination mode (a :: b :: rest)).document =
      [(.text (groupKey mode), .list (Node.documents (a :: b :: rest)))] := by
  cases mode <;> simp only [Node.combination, Node.document, groupKey]

/-- The document of a tree is read as the normal form of the tree, wherever it stands. -/
def ReadsBack [MomentReader] (n : Node) : Prop :=
  ∀ path, readObject path (.map n.document) = .ok n.normalize

/-- The documents of trees that are read back are read one by one. -/
theorem readObjects_documents [MomentReader] {ns : List Node} (h : ∀ n ∈ ns, ReadsBack n)
    (path : String) (index : Nat) :
    readObjects path index (Node.documents ns) = .ok (Node.normalizeEach ns) := by
  induction ns generalizing index with
  | nil => rfl
  | cons n rest ih =>
    have hn := h n List.mem_cons_self (path ++ "[" ++ Number.natText index ++ "]")
    have hrest := ih (fun m hm => h m (List.mem_cons_of_mem n hm)) (index + 1)
    rw [Node.documents, readObjects, hn, hrest]
    rfl

/-- A combination of trees that are read back is read as the combination of their normal forms.
    With a single part neither the document nor the normal form has a combination. -/
theorem readObject_combination [MomentReader] {ns : List Node} (mode : Mode) (hne : ns ≠ [])
    (h : ∀ n ∈ ns, ReadsBack n) (path : String) :
    readObject path (.map (Node.combination mode ns).document) =
      .ok (Node.joined mode (Node.normalizeEach ns)) := by
  match ns, hne with
  | [n], _ =>
    -- a single part is written, and read, as itself
    have hjoined : Node.joined mode (Node.normalizeEach [n]) = n.normalize := by
      cases mode <;> rfl
    rw [Node.document_combination_singleton, hjoined]
    exact h n List.mem_cons_self path
  | a :: b :: rest, _ =>
    rw [document_group]
    exact readObject_group mode path (List.cons_ne_nil _ _) (readObjects_documents h _ 0)

mutual

/-- **Every proper tree whose conditions pass their check is read back.** -/
theorem readsBack [MomentReader] : ∀ n : Node, n.isProper = true →
    (∀ c ∈ n.conditions, c.IsChecked) → ReadsBack n
  | .condition c, _, hchecked => by
    intro path
    rw [Node.document, Node.normalize]
    exact readObject_condition path (hchecked c List.mem_cons_self)
  | .not child, hproper, hchecked => by
    intro path
    rw [Node.document, Node.normalize]
    exact readObject_not path (readsBack child hproper hchecked _)
  | .all children, hproper, hchecked => by
    rw [Node.isProper, Bool.and_eq_true] at hproper
    have hne : children ≠ [] := by simpa using hproper.1
    exact readObject_combination .all hne (readsBackEach children hproper.2 hchecked)
  | .any children, hproper, hchecked => by
    rw [Node.isProper, Bool.and_eq_true] at hproper
    have hne : children ≠ [] := by simpa using hproper.1
    exact readObject_combination .any hne (readsBackEach children hproper.2 hchecked)

/-- So is each of several such trees. -/
theorem readsBackEach [MomentReader] : ∀ ns : List Node, Node.areProper ns = true →
    (∀ c ∈ Node.conditionsOf ns, c.IsChecked) → ∀ n ∈ ns, ReadsBack n
  | [], _, _ => fun n hn => absurd hn List.not_mem_nil
  | first :: rest, hproper, hchecked => by
    rw [Node.areProper, Bool.and_eq_true] at hproper
    rw [Node.conditionsOf, List.forall_mem_append] at hchecked
    intro n hn
    rcases List.mem_cons.mp hn with heq | hn
    · rw [heq]
      exact readsBack first hproper.1 hchecked.1
    · exact readsBackEach rest hproper.2 hchecked.2 n hn

end

end ParsedDocument

/-! ## Filters

A document has its filters next to its query, when there are any. -/

namespace Filters

/-- A filter with one of its settings is accepted. -/
theorem check_of_isFilter {name setting : String} (h : IsFilter name setting) :
    check (.text name) (.data (.text setting)) = .ok (name, setting) := by
  obtain ⟨allowed, hallowed, hmem⟩ := h
  have hcontains : allowed.contains setting = true := by simpa using hmem
  simp only [check, hallowed, Argument.unhashable?, Data.unhashable?, hcontains, if_true]

/-- The entries of a document are read as the filters they were written from. -/
theorem parseEntries_document {filters : Filters} (h : ∀ p ∈ filters, IsFilter p.1 p.2) :
    parseEntries (filters.document.map fun e => (e.1, .data e.2)) = .ok filters := by
  induction filters with
  | nil => rfl
  | cons p rest ih =>
    have hp := check_of_isFilter (h p List.mem_cons_self)
    have hrest := ih fun q hq => h q (List.mem_cons_of_mem p hq)
    rw [document, List.map_cons, List.map_cons, parseEntries, hp]
    rw [document] at hrest
    simp only [bind, Except.bind, hrest]

/-- What a compiled document has for its filters is read as those filters; when there are none,
    nothing is written, and nothing reads as none. -/
theorem parse_compiled_filter (root : Option Node) {filters : Filters}
    (h : ∀ p ∈ filters, IsFilter p.1 p.2) :
    parse (.data ((compiled root filters.document).getD filterKey)) = .ok filters := by
  rw [ParsedDocument.getD_compiled_filter]
  cases filters with
  | nil => rfl
  | cons p rest => exact parseEntries_document h

end Filters

/-! ## Documents

Tree and filters are put together. -/

/-- The document of a proper tree whose conditions pass their check, with any filters, is read as
    the normal form of the tree and the same filters, when it is given as an object. -/
theorem ParsedDocument.ofRecord_compiled [MomentReader] {root : Node} {filters : Filters}
    (hproper : root.isProper = true) (hchecked : ∀ c ∈ root.conditions, c.IsChecked)
    (hfilters : ∀ p ∈ filters, Filters.IsFilter p.1 p.2) :
    ofRecord (compiled (some root) filters.document) = .ok ⟨root.normalize, filters⟩ := by
  have hroot := readsBack root hproper hchecked queryKey
  have hparse := Filters.parse_compiled_filter (some root) hfilters
  rw [ofRecord, strayRootKey?_compiled]
  simp only [get?_compiled_query, Option.map_some, Option.getD_some, hroot, hparse, bind,
    Except.bind]

open ParsedDocument in
/-- **The document of a proper tree whose conditions pass their check, with any filters, is read as
    the normal form of the tree and the same filters.** -/
theorem parse_compiled [MomentReader] {root : Node} {filters : Filters}
    (hproper : root.isProper = true) (hchecked : ∀ c ∈ root.conditions, c.IsChecked)
    (hfilters : ∀ p ∈ filters, Filters.IsFilter p.1 p.2) :
    parse (.map (compiled (some root) filters.document)) = .ok ⟨root.normalize, filters⟩ :=
  ofRecord_compiled hproper hchecked hfilters

open ParsedDocument in
/-- Two combinations of a single part, one of them under a negation, and a modifier. -/
theorem parse_compiled_single_parts :
    let keyword : Condition := ⟨"keyword", .text "climate", [(keywordLocation, .text "title")]⟩
    let language : Condition := ⟨"lang", .text "eng", []⟩
    let articles : Condition := ⟨"minArticlesInEvent", .int 3, []⟩
    let root : Node := .all [.any [.condition keyword],
      .not (.all [.any [.condition language, .condition articles]])]
    parse (.map (compiled (some root) (Filters.document [("hasEvent", "keepAll")]))) =
      .ok ⟨.all [.condition keyword, .not (.any [.condition language, .condition articles])],
        [("hasEvent", "keepAll")]⟩ := by
  intro keyword language articles root
  have hkeyword : keyword.IsChecked := Condition.isChecked_of rfl rfl rfl (by decide)
  have hlanguage : language.IsChecked := Condition.isChecked_of rfl rfl rfl (by decide)
  have harticles : articles.IsChecked := Condition.isChecked_of rfl rfl rfl (by decide)
  have hproper : root.isProper = true := by decide
  refine parse_compiled hproper ?_ ?_
  · intro c hc
    have hc' : c = keyword ∨ c = language ∨ c = articles := by
      simpa [root, Node.conditions, Node.conditionsOf] using hc
    rcases hc' with rfl | rfl | rfl
    · exact hkeyword
    · exact hlanguage
    · exact harticles
  · intro p hp
    rw [List.mem_singleton.mp hp]
    exact ⟨_, rfl, by decide⟩

end NewsSearch
