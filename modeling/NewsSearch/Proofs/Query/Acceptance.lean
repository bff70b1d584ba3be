import NewsSearch.Proofs.Query.Grammar
import NewsSearch.Proofs.Query.RoundTrip
import NewsSearch.Proofs.Record

/-!
Reading accepts exactly the grammar.

`Grammar` says which documents there are and what each stands for, as rules over the data alone.
The reader is written differently.  It walks through the entries of an object once, builds a node
for each of them on the way, carries a path along for its messages, and only at the end does it ask
which modifiers lacked a field.  This file shows that the two agree: what is read is what the rules
say, and whatever follows the rules is read.

The one place where they do not correspond step by step is the modifiers.  The grammar asks of the
whole object that every modifier in it has an allowed value and stands beside its own field.  The
reader never asks this.  It checks the modifier of a field each time it makes a condition of that
field, and checks nothing for a field of which it makes no condition.  The argument therefore needs
to know that a field which is read has at least one value, and it goes as follows.

1. For one field, making a condition succeeds when the value is one of the field and its modifier is
   allowed (`make_eq_ok_iff`).  For several values the modifier is only asked about when there is a
   value (`readValues_eq_ok_iff`), and a field with no value is refused, so a field that is read has
   an allowed modifier (`readField_eq_ok_iff`).  This holds in both directions at once, for a field
   holds no objects.
2. Along the entries, the checks of all fields together are those of the object
   (`modifiersAllowed_of_read`).  Together with the test at the end they are the condition of the
   grammar (`modifiersFit_iff`).
3. From reading to the grammar the proof follows the data, an object within an object at a time
   (`object_of_read`, `entries_of_read`, `group_of_read`, `objects_of_read`).  An entry that is read
   is first sorted into a modifier, a combination, a negation or a field (`readEntries_cons_cases`).
   For a whole source this is `source_of_parse`, which other files use.
4. From the grammar to reading it follows the rules that were used (`Object.read` and its
   companions).  Here the path is arbitrary, for a document that is read has no message in which it
   would occur.
5. Filters have two levels only, and are read when they are spelled by a list of known settings
   (`Filters.parse_eq_ok_iff`).

A date counts as a value of its field when the reader of moments accepts it.  Nothing is assumed of
that reader, so the statement holds whichever texts it takes for dates.

Main statement: `ParsedDocument.parse_iff_source`.
-/

namespace NewsSearch

open Calendar ParsedDocument

namespace Grammar

/-! ## Modifiers

The modifier of a field is looked up in the object in which the field stands.  A field has at most
one modifier, and what is found is a list of at most one element. -/

section Modifiers

variable {object : Record} {f : Field}

/-- The reader finds the same modifier for a field as the grammar does.  They differ only in that
    the reader wraps its value as an argument of a condition. -/
theorem modifiersFor_eq :
    modifiersFor object f = (modifiersOf object f).map fun m => (m.1, .data m.2) := by
  unfold modifiersFor modifiersOf
  cases f.modifier with
  | none => rfl
  | some name =>
    cases hv : object.get? name <;> simp [hv]

/-- The modifier of a field is the one of its own name, with the value that the object has there. -/
theorem mem_modifiersOf {m : String × Data} :
    m ∈ modifiersOf object f ↔ f.modifier = some m.1 ∧ object.get? m.1 = some m.2 := by
  obtain ⟨name, v⟩ := m
  unfold modifiersOf
  split
  · next hnone => simp [hnone]
  · next own hown =>
    simp only [hown, Option.mem_toList, Option.map_eq_some_iff, Prod.mk.injEq, Option.some.injEq]
    constructor
    · rintro ⟨w, hw, rfl, rfl⟩
      exact ⟨rfl, hw⟩
    · rintro ⟨rfl, hv⟩
      exact ⟨v, hv, rfl, rfl⟩

/-- There is at most one, so putting modifiers in order by their names changes nothing. -/
theorem length_modifiersOf_le : (modifiersOf object f).length ≤ 1 := by
  unfold modifiersOf
  split
  · simp
  · exact Option.length_toList_le

/-- The modifier that a field has in an object, if it has one, may have the value it has. -/
def Allowed (object : Record) (f : Field) : Prop :=
  ∀ m ∈ modifiersOf object f, AllowedModifier m.1 m.2

/-- Checking the modifier of a field succeeds when its value is allowed, and what is kept is the
    modifier as it was given.  The induction is on the modifiers that were found, of which it uses
    only that each is one of the field. -/
theorem checkModifiers_eq_ok_iff (hf : f ∈ Field.vocabulary) {checked : List (String × Data)} :
    f.checkModifiers (modifiersFor object f) = .ok checked ↔
      Allowed object f ∧ checked = modifiersOf object f := by
  have hown : ∀ m ∈ modifiersOf object f, f.modifier = some m.1 :=
    fun m hm => (mem_modifiersOf.mp hm).1
  rw [modifiersFor_eq, Allowed]
  generalize modifiersOf object f = given at hown
  induction given generalizing checked with
  | nil => simp [Field.checkModifiers, eq_comm]
  | cons m rest ih =>
    have hm := hown m List.mem_cons_self
    have hrest : ∀ n ∈ rest, f.modifier = some n.1 :=
      fun n hn => hown n (List.mem_cons_of_mem m hn)
    simp only [List.map_cons, Field.checkModifiers, bind_eq_ok_iff,
      Field.checkModifier_eq_ok_iff hf, ih hrest, List.forall_mem_cons, Except.ok.injEq]
    constructor
    · rintro ⟨v, ⟨-, hallowed, rfl⟩, others, ⟨hrest, rfl⟩, rfl⟩
      exact ⟨⟨hallowed, hrest⟩, rfl⟩
    · rintro ⟨⟨hallowed, hrest⟩, rfl⟩
      exact ⟨m.2, ⟨hm, hallowed, rfl⟩, rest, ⟨hrest, rfl⟩, rfl⟩

end Modifiers

/-! ## Fields

Under a field stand scalars, and nothing below them has to be read.  The statements about fields are
therefore equivalences, and neither direction is an induction on the document. -/

section Fields

variable {object : Record} {f : Field} {path : String}

/-- A value under a field makes a condition when it is a scalar that the field sends as something,
    and the modifier of the field is allowed.  The condition holds what is sent and the modifier. -/
theorem make_eq_ok_iff [MomentReader] (hf : f ∈ Field.vocabulary) {d : Data} {c : Condition} :
    Condition.make f (.data d) (modifiersFor object f) = .ok c ↔
      Allowed object f ∧ ∃ s v, d = .scalar s ∧ f.Sends s v ∧ c = conditionOf object f v := by
  have hlength : (modifiersOf object f).length ≤ 1 := length_modifiersOf_le
  have hsorted := Condition.sortedByName_eq_self hlength
  simp only [Condition.make_eq_ok_iff, checkModifiers_eq_ok_iff hf, Field.normalizeValue_eq_ok_iff,
    Argument.data.injEq]
  constructor
  · rintro ⟨hfield, ⟨s, rfl, hsends⟩, _, ⟨hallowed, rfl⟩, hmodifiers⟩
    refine ⟨hallowed, s, c.value, rfl, hsends, ?_⟩
    rw [hsorted] at hmodifiers
    rw [conditionOf, ← hfield, ← hmodifiers]
  · rintro ⟨hallowed, s, v, rfl, hsends, rfl⟩
    exact ⟨rfl, ⟨s, rfl, hsends⟩, _, ⟨hallowed, rfl⟩, hsorted.symm⟩

/-- Values under a field are read as conditions, one by one.  The modifier is checked with each of
    them, so it has to be allowed as soon as there is one; with no values at all nothing is asked of
    it. -/
theorem readValues_eq_ok_iff [MomentReader] (hf : f ∈ Field.vocabulary) {ds : List Data}
    {nodes : List Node} :
    readValues f (modifiersFor object f) path ds = .ok nodes ↔
      (ds ≠ [] → Allowed object f) ∧ ∃ values sent, ds = values.map .scalar ∧
        List.Forall₂ f.Sends values sent ∧
        nodes = sent.map fun v => .condition (conditionOf object f v) := by
  induction ds generalizing nodes with
  | nil =>
    constructor
    · intro h
      cases h
      exact ⟨fun h => absurd rfl h, [], [], rfl, .nil, rfl⟩
    · rintro ⟨-, values, sent, hvalues, hsends, rfl⟩
      rw [List.map_eq_nil_iff.mp hvalues.symm] at hsends
      cases hsends
      rfl
  | cons d rest ih =>
    -- both directions take off the first value and leave the others to the induction
    rw [readValues]
    constructor
    · intro h
      split at h
      · cases h
      · simp only [bind_eq_ok_iff, mapError_eq_ok_iff, make_eq_ok_iff hf, ih] at h
        obtain ⟨c, ⟨hallowed, s, v, rfl, hsends, rfl⟩, others, hothers, hnodes⟩ := h
        obtain ⟨-, values, sent, rfl, hrest, rfl⟩ := hothers
        cases hnodes
        exact ⟨fun _ => hallowed, s :: values, v :: sent, rfl, .cons hsends hrest, rfl⟩
    · rintro ⟨hallowed, values, sent, hvalues, hsends, rfl⟩
      have hfits := hallowed (List.cons_ne_nil d rest)
      cases hsends with
      | nil => cases hvalues
      | @cons s v values sent hs hrest =>
        cases hvalues
        have hcond := (make_eq_ok_iff hf).mpr ⟨hfits, s, v, rfl, hs, rfl⟩
        have hothers := ih.mpr ⟨fun _ => hfits, values, sent, rfl, hrest, rfl⟩
        simp only [isNested, hcond, hothers]
        rfl

/-- Scalars stand under a field in one of three forms: alone, in a list, or in a list under the key
    of a mode.  The reader tells the forms apart by looking at the data, the grammar has a rule for
    each. -/
theorem fieldValues_eq_ok_iff {item : Data} {mode : Mode} {values : List Scalar} :
    fieldValues f path item = .ok (mode, values.map .scalar) ↔ Item f item mode values := by
  constructor
  · intro h
    unfold fieldValues at h
    split at h
    · next key inner =>
      split at h
      · next hkey =>
        split at h
        · next ds =>
          cases h
          rcases hkey with rfl | rfl
          · exact .group .all values
          · exact .group .any values
        · cases h
      · cases h
    · cases h
    · cases h
      exact .list values
    · rw [Except.ok.injEq, Prod.mk.injEq] at h
      obtain ⟨rfl, hone⟩ := h
      -- in the last case the value itself is the only one, and all values are scalars
      obtain ⟨s, rfl, rfl⟩ := List.map_eq_singleton_iff.mp hone.symm
      exact .single s
  · intro h
    cases h with
    | single s => rfl
    | list => rfl
    | group => cases mode <;> rfl

/-- **A field is read** when what stands under it follows the grammar and its modifier is allowed.
    The reader refuses a field without values, and that is why the modifier has been checked. -/
theorem readField_eq_ok_iff [MomentReader] (hf : f ∈ Field.vocabulary) {item : Data} {n : Node} :
    readField f (modifiersFor object f) path item = .ok n ↔
      Allowed object f ∧ FieldEntry object f item n := by
  constructor
  · intro h
    rw [readField, bind_eq_ok_iff] at h
    obtain ⟨⟨mode, ds⟩, hform, h⟩ := h
    simp only [] at h
    split at h
    · cases h
    · next hnonempty =>
      split at h
      · cases h
      · next hseveral =>
        rw [map_eq_ok_iff] at h
        obtain ⟨nodes, hnodes, rfl⟩ := h
        obtain ⟨hallowed, values, sent, rfl, hsends, rfl⟩ := (readValues_eq_ok_iff hf).mp hnodes
        have hne : values ≠ [] := by simpa using hnonempty
        refine ⟨hallowed (by simpa using hne), .mk (fieldValues_eq_ok_iff.mp hform) hne ?_ hsends⟩
        intro hlength
        simpa [hlength] using hseveral
  · rintro ⟨hallowed, @⟨mode, values, sent, hform, hne, hseveral, hsends⟩⟩
    have hempty : (values.map Data.scalar).isEmpty = false := by simpa using hne
    have hcount : (!f.multi && decide (1 < (values.map Data.scalar).length)) = false := by
      by_cases hlength : 1 < values.length
      · simp [hseveral hlength]
      · simp [hlength]
    have hvalues : readValues f (modifiersFor object f) path (values.map .scalar) =
        .ok (sent.map fun v => .condition (conditionOf object f v)) :=
      (readValues_eq_ok_iff hf).mpr ⟨fun _ => hallowed, values, sent, rfl, hsends, rfl⟩
    rw [readField, fieldValues_eq_ok_iff.mpr hform]
    simp only [bind, Except.bind, hempty, hcount, hvalues]
    rfl

end Fields

/-! ## Entries

The reader decides by the key of an entry what to do with it.  `ReadEntry` has a case for every
decision that leads to a node, with the call that was made and the path it was made with. -/

section Entries

variable {object : Record} {path : String}

/-- An entry of an object that is no modifier, as the reader takes it: a combination, a negation or
    a field. -/
inductive ReadEntry [MomentReader] (object : Record) (path : String) : String → Data → Node → Prop
  | group {item : Data} {n : Node} (mode : Mode)
      (reads : readGroup mode (path ++ "." ++ groupKey mode) item = .ok n) :
      ReadEntry object path (groupKey mode) item n
  | not {item : Data} {n : Node} (reads : readObject (path ++ "." ++ notKey) item = .ok n) :
      ReadEntry object path notKey item (.not n)
  | field {f : Field} {item : Data} {n : Node} (known : f ∈ Field.vocabulary)
      (reads : readField f (modifiersFor object f) (path ++ "." ++ f.key) item = .ok n) :
      ReadEntry object path f.key item n

/-- The nodes of some entries are there when the node of the first is and the nodes of the others
    are. -/
theorem followedBy_eq_ok_iff {node : Except Fault Node} {others : Except Fault (List Node)}
    {nodes : List Node} :
    followedBy node others = .ok nodes ↔
      ∃ n ns, node = .ok n ∧ others = .ok ns ∧ nodes = n :: ns := by
  simp only [followedBy, bind_eq_ok_iff, Except.ok.injEq]
  constructor
  · rintro ⟨n, hn, ns, hns, heq⟩
    exact ⟨n, ns, hn, hns, heq.symm⟩
  · rintro ⟨n, ns, hn, hns, heq⟩
    exact ⟨n, hn, ns, hns, heq.symm⟩

/-- When an entry and the others after it are read, each of the two is. -/
theorem read_of_followedBy [MomentReader] {key : String} {item : Data} {rest : List (Scalar × Data)}
    {first : Except Fault Node} {nodes : List Node}
    (hentry : ∀ n, first = .ok n → ReadEntry object path key item n)
    (h : followedBy first (readEntries path object rest) = .ok nodes) :
    ∃ n others, nodes = n :: others ∧ readEntries path object rest = .ok others ∧
      ReadEntry object path key item n := by
  obtain ⟨n, others, hn, hothers, hnodes⟩ := followedBy_eq_ok_iff.mp h
  exact ⟨n, others, hnodes, hothers, hentry n hn⟩

/-- **Inversion of reading.** The first entry that is read is a modifier, which is passed over, or
    it stands for a node that was read from it.  No key that is not a text comes this far.  The
    cases are told apart in the order in which the reader does it. -/
theorem readEntries_cons_cases [MomentReader] {entry : Scalar × Data} {rest : List (Scalar × Data)}
    {nodes : List Node} (h : readEntries path object (entry :: rest) = .ok nodes) :
    ∃ key item, entry = (.text key, item) ∧
      ((key ∈ Field.modifierNames ∧ readEntries path object rest = .ok nodes) ∨
        ∃ n others, nodes = n :: others ∧ readEntries path object rest = .ok others ∧
          ReadEntry object path key item n) := by
  obtain ⟨k, item⟩ := entry
  cases k with
  | text key =>
    refine ⟨key, item, rfl, ?_⟩
    by_cases hmodifier : key ∈ Field.modifierNames
    · rw [readEntries_modifier _ _ _ _ hmodifier] at h
      exact Or.inl ⟨hmodifier, h⟩
    · refine Or.inr ?_
      by_cases hgroup : ∃ mode, key = groupKey mode
      · obtain ⟨mode, rfl⟩ := hgroup
        rw [readEntries_group] at h
        exact read_of_followedBy (fun n hn => .group mode hn) h
      by_cases hnot : key = notKey
      · subst hnot
        rw [readEntries_not] at h
        refine read_of_followedBy (fun n hn => ?_) h
        obtain ⟨m, hm, rfl⟩ := map_eq_ok_iff.mp hn
        exact .not hm
      cases hfield : Field.ofKey? key with
      | some f =>
        obtain ⟨hf, rfl⟩ := Field.mem_vocabulary_of_ofKey? hfield
        rw [readEntries_field _ _ _ _ hf] at h
        exact read_of_followedBy (fun n hn => .field hf hn) h
      | none =>
        -- with a key that is none of these the reader refuses
        have hother : ∀ mode, key ≠ groupKey mode := fun mode heq => hgroup ⟨mode, heq⟩
        exact absurd h (readEntries_unknown _ _ _ _ hmodifier hother hnot hfield nodes)
  | _ => cases h

/-- The modifiers of the fields that some entries have are allowed.  They are looked up in the whole
    object, of which the entries are what is left to read. -/
def ModifiersAllowed (object : Record) (entries : List (Scalar × Data)) : Prop :=
  ∀ f ∈ Field.vocabulary, Record.contains (.text f.key) entries = true → Allowed object f

/-- The entries that follow have no more fields. -/
theorem ModifiersAllowed.tail {entry : Scalar × Data} {rest : List (Scalar × Data)}
    (h : ModifiersAllowed object (entry :: rest)) : ModifiersAllowed object rest := by
  intro f hf hkey
  refine h f hf ?_
  rw [Record.contains, List.any_cons]
  exact Bool.or_eq_true_iff.mpr (Or.inr hkey)

/-- A field among the entries that are read has had its modifier checked.  This is the invariant
    that replaces the check of the whole object in the reader. -/
theorem modifiersAllowed_of_read [MomentReader] {entries : List (Scalar × Data)} {nodes : List Node}
    (h : readEntries path object entries = .ok nodes) : ModifiersAllowed object entries := by
  induction entries generalizing nodes with
  | nil =>
    intro f _ hkey
    cases hkey
  | cons entry rest ih =>
    intro f hf hkey
    obtain ⟨key, item, rfl, hcases⟩ := readEntries_cons_cases h
    -- the entry of the field is the first one, or one of the others
    rcases Record.contains_cons_text.mp hkey with rfl | hkey
    · rw [readEntries_field _ _ _ _ hf] at h
      obtain ⟨n, -, hn, -⟩ := followedBy_eq_ok_iff.mp h
      exact ((readField_eq_ok_iff hf).mp hn).1
    · rcases hcases with ⟨-, hrest⟩ | ⟨_, _, -, hrest, -⟩
      · exact ih hrest f hf hkey
      · exact ih hrest f hf hkey

/-- **The two ways to check modifiers agree.** The modifiers of an object fit, as the grammar has
    it, when those of its fields are allowed, as reading the fields has found, and none is without
    its field, as the reader asks at the end. -/
theorem modifiersFit_iff :
    ModifiersFit object ↔ ModifiersAllowed object object ∧ looseModifiers object = [] := by
  rw [looseModifiers_eq_nil_iff]
  constructor
  · intro h
    constructor
    · intro f hf _ m hm
      obtain ⟨hname, hget⟩ := mem_modifiersOf.mp hm
      exact (h m.1 (Field.mem_modifierNames hf hname) m.2 hget).1
    · intro name hname hcontains
      obtain ⟨v, hget⟩ := Record.contains_iff_find?.mp hcontains
      obtain ⟨-, f, hf, hmodifier, hkey⟩ := h name hname v hget
      rw [hasFieldOf, List.any_eq_true]
      exact ⟨f, hf, by simp [hmodifier, hkey]⟩
  · -- a modifier of the object is not loose, so it has a field, and that field has it checked
    rintro ⟨hallowed, hfields⟩ name hname v hget
    have hfield := hfields name hname (Record.contains_iff_find?.mpr ⟨v, hget⟩)
    rw [hasFieldOf, List.any_eq_true] at hfield
    obtain ⟨f, hf, hfield⟩ := hfield
    rw [Bool.and_eq_true, decide_eq_true_eq] at hfield
    obtain ⟨hmodifier, hkey⟩ := hfield
    have hmem : (name, v) ∈ modifiersOf object f := mem_modifiersOf.mpr ⟨hmodifier, hget⟩
    exact ⟨hallowed f hf hkey (name, v) hmem, f, hf, hmodifier, hkey⟩

end Entries

section Objects

variable [MomentReader]

/-! ## Objects that are read follow the grammar

The recursion is on the data.  Each theorem stands for one of the functions of the reader and has
the same calls; what is no object or no list is refused at once. -/

/-- An object is read when it has entries, all of them are, and no modifier is loose. -/
theorem readObject_eq_ok_iff {object : Record} {path : String} {n : Node} :
    readObject path (.map object) = .ok n ↔
      object ≠ [] ∧ looseModifiers object = [] ∧
        ∃ nodes, readEntries path object object = .ok nodes ∧ n = Node.allOf nodes := by
  constructor
  · intro h
    cases object with
    | nil => cases h
    | cons entry rest =>
      rw [readObject, bind_eq_ok_iff] at h
      · obtain ⟨nodes, hnodes, h⟩ := h
        split at h
        · next hloose =>
          cases h
          exact ⟨List.cons_ne_nil _ _, hloose, nodes, hnodes, rfl⟩
        · cases h
      · exact List.cons_ne_nil _ _
  · rintro ⟨hne, hloose, nodes, hnodes, rfl⟩
    exact readObject_eq_ok path object hne hnodes hloose

/-- A combination is read when it is a list of objects that are read, and not the empty list. -/
theorem readGroup_eq_ok_iff {mode : Mode} {path : String} {item : Data} {n : Node} :
    readGroup mode path item = .ok n ↔
      ∃ objects nodes, item = .list objects ∧ objects ≠ [] ∧
        readObjects path 0 objects = .ok nodes ∧ n = .joined mode nodes := by
  constructor
  · intro h
    unfold readGroup at h
    split at h
    · cases h
    · next objects hne =>
      obtain ⟨nodes, hnodes, rfl⟩ := map_eq_ok_iff.mp h
      exact ⟨objects, nodes, rfl, fun hnil => hne (by rw [hnil]), hnodes, rfl⟩
    · cases h
  · rintro ⟨objects, nodes, rfl, hne, hnodes, rfl⟩
    cases objects with
    | nil => exact absurd rfl hne
    | cons object rest =>
      simp only [readGroup, hnodes]
      rfl

mutual

/-- An object that is read follows the grammar: its entries do, and its modifiers fit. -/
theorem object_of_read : ∀ {d : Data} {path : String} {n : Node},
    readObject path d = .ok n → Object d n
  | .map object, path, n, h => by
    obtain ⟨hne, hloose, nodes, hnodes, rfl⟩ := readObject_eq_ok_iff.mp h
    have hmodifiers := modifiersFit_iff.mpr ⟨modifiersAllowed_of_read hnodes, hloose⟩
    exact .mk hne hmodifiers (entries_of_read hnodes)
  | .scalar _, _, _, h => by cases h
  | .list _, _, _, h => by cases h
  | .tuple _, _, _, h => by cases h

/-- Entries that are read follow the grammar.  The first one is a modifier, or its node comes from
    one of the three kinds of entries. -/
theorem entries_of_read : ∀ {entries : List (Scalar × Data)} {object : Record} {path : String}
    {nodes : List Node}, readEntries path object entries = .ok nodes → Entries object entries nodes
  | [], _, _, _, h => by cases h; exact .nil
  | (k, item) :: rest, object, path, nodes, h => by
    obtain ⟨key, item', heq, ⟨hmodifier, hrest⟩ | ⟨n, others, rfl, hrest, hentry⟩⟩ :=
      readEntries_cons_cases h
    · cases heq
      exact .modifier hmodifier (entries_of_read hrest)
    · cases heq
      refine .node ?_ (entries_of_read hrest)
      cases hentry with
      | group mode reads => exact group_of_read reads
      | not reads => exact .not (object_of_read reads)
      | field known reads => exact .field known ((readField_eq_ok_iff known).mp reads).2

/-- A combination that is read is one of the grammar, for its objects are. -/
theorem group_of_read : ∀ {item : Data} {object : Record} {mode : Mode} {path : String} {n : Node},
    readGroup mode path item = .ok n → Entry object (groupKey mode) item n
  | .list objects, _, mode, path, n, h => by
    obtain ⟨_, nodes, heq, hne, hnodes, rfl⟩ := readGroup_eq_ok_iff.mp h
    cases heq
    exact .group mode hne (objects_of_read hnodes)
  | .scalar _, _, _, _, _, h => by cases h
  | .map _, _, _, _, _, h => by cases h
  | .tuple _, _, _, _, _, h => by cases h

/-- Objects in a list that are read follow the grammar, one by one. -/
theorem objects_of_read : ∀ {objects : List Data} {path : String} {index : Nat} {nodes : List Node},
    readObjects path index objects = .ok nodes → Objects objects nodes
  | [], _, _, _, h => by cases h; exact .nil
  | object :: rest, path, index, nodes, h => by
    simp only [readObjects, bind_eq_ok_iff] at h
    obtain ⟨n, hn, others, hothers, hnodes⟩ := h
    cases hnodes
    exact .cons (object_of_read hn) (objects_of_read hothers)

end

/-! ## What follows the grammar is read

The recursion is on the rules.  The modifiers of an object are checked once and for all at its rule,
and handed down to its entries as `ModifiersAllowed`; objects within it check their own. -/

mutual

/-- An object of the grammar is read as what it stands for, wherever it stands. -/
theorem Object.read : ∀ {d : Data} {n : Node}, Object d n → ∀ path, readObject path d = .ok n
  | _, _, .mk hne hmodifiers hentries, path => by
    obtain ⟨hallowed, hloose⟩ := modifiersFit_iff.mp hmodifiers
    exact readObject_eq_ok path _ hne (hentries.read hallowed path) hloose

/-- Entries of the grammar are read when the modifiers of their fields are allowed. -/
theorem Entries.read : ∀ {object : Record} {entries : List (Scalar × Data)} {nodes : List Node},
    Entries object entries nodes → ModifiersAllowed object entries →
      ∀ path, readEntries path object entries = .ok nodes
  | _, _, _, .nil, _, _ => rfl
  | _, _, _, .modifier hname hothers, hallowed, path => by
    rw [readEntries_modifier _ _ _ _ hname]
    exact hothers.read hallowed.tail path
  | _, _, _, .node hfirst hothers, hallowed, path => by
    exact hfirst.read hallowed path (hothers.read hallowed.tail path)

/-- An entry of the grammar is read, with the nodes of the entries after it. -/
theorem Entry.read : ∀ {object : Record} {key : String} {item : Data} {n : Node},
    Entry object key item n → ∀ {rest : List (Scalar × Data)} {others : List Node},
      ModifiersAllowed object ((.text key, item) :: rest) → ∀ path,
      readEntries path object rest = .ok others →
      readEntries path object ((.text key, item) :: rest) = .ok (n :: others)
  | _, _, _, _, .group mode hne heach, _, _, _, path, hothers => by
    rw [readEntries_group, hothers,
      readGroup_eq_ok_iff.mpr ⟨_, _, rfl, hne, heach.read _ _, rfl⟩]
    rfl
  | _, _, _, _, .not hnegated, _, _, _, path, hothers => by
    rw [readEntries_not, hothers, hnegated.read]
    rfl
  | _, _, _, _, .field hf hentry, _, _, hallowed, path, hothers => by
    have hkey := hallowed _ hf (Record.contains_cons_text.mpr (Or.inl rfl))
    rw [readEntries_field _ _ _ _ hf, hothers, (readField_eq_ok_iff hf).mpr ⟨hkey, hentry⟩]
    rfl

/-- Objects of the grammar in a list are read, wherever the list stands. -/
theorem Objects.read : ∀ {objects : List Data} {nodes : List Node}, Objects objects nodes →
    ∀ path index, readObjects path index objects = .ok nodes
  | _, _, .nil, _, _ => rfl
  | _, _, .cons hfirst hothers, path, index => by
    rw [readObjects, hfirst.read, hothers.read]
    rfl

end

end Objects

end Grammar

/-! ## Filters

Filters are read from a mapping of names to settings.  What is accepted is spelled by a list of
pairs, and there is no other spelling. -/

namespace Filters

/-- A filter is accepted when it has a known name and one of its settings, and both are kept as
    texts. -/
theorem check_eq_ok_iff {name : Scalar} {a : Argument} {p : String × String} :
    check name a = .ok p ↔
      name = .text p.1 ∧ a = .data (.text p.2) ∧ IsFilter p.1 p.2 := by
  constructor
  · intro h
    have hfilter := isFilter_of_check h
    unfold check at h
    split at h
    · split at h
      · cases h
      · split at h
        · cases h
        · split at h
          · split at h
            · cases h
              exact ⟨rfl, rfl, hfilter⟩
            · cases h
          · cases h
    · cases h
  · rintro ⟨rfl, rfl, hfilter⟩
    exact check_of_isFilter hfilter

/-- The entries that filters are given as. -/
def entries (filters : Filters) : List (Scalar × Argument) :=
  filters.map fun p => (.text p.1, .data (.text p.2))

/-- Entries are accepted when they are those of filters, and then it is these filters that are
    read. -/
theorem parseEntries_eq_ok_iff {given : List (Scalar × Argument)} {filters : Filters} :
    parseEntries given = .ok filters ↔
      given = filters.entries ∧ ∀ p ∈ filters, IsFilter p.1 p.2 := by
  constructor
  · intro h
    induction given generalizing filters with
    | nil =>
      cases h
      exact ⟨rfl, fun p hp => absurd hp List.not_mem_nil⟩
    | cons e rest ih =>
      obtain ⟨name, a⟩ := e
      simp only [parseEntries, bind_eq_ok_iff, check_eq_ok_iff] at h
      obtain ⟨p, ⟨rfl, rfl, hfilter⟩, others, hothers, hfilters⟩ := h
      cases hfilters
      obtain ⟨rfl, hrest⟩ := ih hothers
      exact ⟨rfl, List.forall_mem_cons.mpr ⟨hfilter, hrest⟩⟩
  · rintro ⟨rfl, hfilters⟩
    have hread := parseEntries_document hfilters
    rw [document, List.map_map] at hread
    exact hread

/-- Filters are accepted from nothing and from objects of known filters. -/
theorem parse_eq_ok_iff {d : Data} {filters : Filters} :
    parse (.data d) = .ok filters ↔ Grammar.FilterEntry d filters := by
  constructor
  · intro h
    unfold parse at h
    split at h
    · next hnull =>
      cases h
      cases d with
      | scalar s => cases s <;> first | exact .none | cases hnull
      | _ => cases hnull
    · cases d with
      | map object =>
        obtain ⟨hentries, hfilters⟩ := parseEntries_eq_ok_iff.mp h
        -- arguments of plain data are told apart by the data, so the object is spelled by the
        -- filters
        have hobject : object = filters.document := by
          have hinjective : Function.Injective fun e : Scalar × Data =>
              (e.1, Argument.data e.2) := by
            rintro ⟨k, v⟩ ⟨l, w⟩ heq
            simpa using heq
          refine hinjective.list_map ?_
          rw [hentries, entries, document, List.map_map]
          rfl
        rw [hobject]
        exact .object filters hfilters
      | _ => cases h
  · intro h
    cases h with
    | none => rfl
    | object _ hfilters => exact parseEntries_document hfilters

end Filters

/-! ## Documents

A document has the object to be searched for and perhaps filters.  It is given as an object, or as a
text that is read as JSON first. -/

namespace ParsedDocument

open Grammar

/-- No key is stray when each is one of the two that a document has.  A key is compared with both as
    a value, and a value that is the same as a text is that text. -/
theorem strayRootKey?_eq_none_iff {document : Record} :
    strayRootKey? document = none ↔
      ∀ e ∈ document, e.1 = .text queryKey ∨ e.1 = .text filterKey := by
  have hkey : ∀ k : Scalar, (!(k.same (.text queryKey) || k.same (.text filterKey))) = true ↔
      ¬ (k = .text queryKey ∨ k = .text filterKey) := by
    intro k
    rw [← Scalar.same_text_iff, ← Scalar.same_text_iff, ← Bool.or_eq_true, Bool.not_eq_true,
      Bool.not_eq_true']
  rw [strayRootKey?, List.find?_eq_none, Record.keys, List.forall_mem_map]
  simp only [hkey, Classical.not_not]

/-- An object is read as a document when it is one: its keys are known, the object to be searched
    for is there and follows the grammar, and its filters are accepted. -/
theorem ofRecord_eq_ok_iff [MomentReader] {document : Record} {p : ParsedDocument} :
    ofRecord document = .ok p ↔ Document document p := by
  constructor
  · intro h
    unfold ofRecord at h
    split at h
    · cases h
    · next hkeys =>
      split at h
      · cases h
      · next query hquery =>
        simp only [bind_eq_ok_iff, Filters.parse_eq_ok_iff] at h
        obtain ⟨root, hroot, filters, hfilters, hp⟩ := h
        cases hp
        have hkeys := strayRootKey?_eq_none_iff.mp hkeys
        exact ⟨hkeys, ⟨query, hquery, object_of_read hroot⟩, hfilters⟩
  · rintro ⟨hkeys, ⟨query, hquery, hroot⟩, hfilters⟩
    simp only [ofRecord, strayRootKey?_eq_none_iff.mpr hkeys, hquery, hroot.read,
      Filters.parse_eq_ok_iff.mpr hfilters]
    rfl

/-- What is read follows the grammar, whether it was given as an object or as a text. -/
theorem source_of_parse [MomentReader] {source : Data} {p : ParsedDocument}
    (h : parse source = .ok p) : Source source p := by
  unfold parse at h
  split at h
  · split at h
    · next hreads => exact .text hreads (ofRecord_eq_ok_iff.mp h)
    · cases h
    · cases h
    · cases h
  · exact .object (ofRecord_eq_ok_iff.mp h)
  · cases h

/-- **Acceptance.** A document is accepted exactly when it follows the grammar, and what is read is
    what it stands for, whichever texts the reader of moments takes for dates.  So the grammar says
    all there is to say about documents that are accepted: which they are, in which order their
    nodes come, how values in lists are combined, and which conditions have which modifiers. -/
theorem parse_iff_source [MomentReader] {source : Data} {p : ParsedDocument} :
    parse source = .ok p ↔ Source source p := by
  constructor
  · exact source_of_parse
  · intro h
    cases h with
    | object hfits => exact ofRecord_eq_ok_iff.mpr hfits
    | text hreads hfits =>
      simp only [parse, hreads]
      exact ofRecord_eq_ok_iff.mpr hfits

end ParsedDocument

end NewsSearch
