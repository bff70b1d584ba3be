import NewsSearch.Proofs.Json.Reading
import NewsSearch.Proofs.Query.Acceptance

/-!
How reading a document can end in a refusal.

Whatever a document of the shape of JSON holds, reading it ends with a tree, or with a fault that is
a fault of the document and says where.  What the file is about are the gaps in this rule.  There
are four, each with a predicate that says what in the data opens it:

1. **Values that cannot be looked up** (`Misplaced`, `MisplacedIn`).  Settings of filters and
   locations of keywords are looked up among the known ones.  A list or a mapping cannot be looked
   up at all, and that fault leaves the reader as it is.
2. **Numerals that cannot be read.**  A text may hold an integer of too many digits.
3. **Keys that are no texts** (`OddKey`, `OddKeyIn`).  A document that is given as a mapping may
   have keys of any kind.  Such a key is asked for its first character, and an integer of too many
   digits cannot even be named.
4. **Values that cannot be quoted** (`Unquoted`, `UnquotedIn`).  A value that should be a count and
   is no integer is quoted in the refusal, which fails for a tuple with an integer of too many
   digits in it.  Lists and mappings have been refused before it comes to that.

Every function of the reader has its lemma about the faults with which it refuses (`RefusesOnly`),
each put together from those of its steps, in the order in which the reader takes them: values and
modifiers (`Field.normalizeValue_refuses`, `Grammar.checkModifiers_refuses`), what stands under a
field (`Grammar.readField_refuses`), objects, filters, the document.  The functions for objects
within objects share one induction on the value (`Grammar.object_refuses` and its companions), and
`Unread` is what it carries: the gaps of an object, each closed under `$and`, `$or` and `$not`.

The third and the fourth gap need keys that are no texts, or tuples.  In the shape of JSON there is
neither (`Json.not_oddKeyIn`, `Json.not_unquotedIn`), so only the first two are left there.  What a
text is read as always has that shape (`ending_of_text`).

Main statements: `ParsedDocument.parse_ends` for the shape of JSON, `ParsedDocument.parse_refuses`
for any data.
-/

namespace NewsSearch

open Calendar ParsedDocument

/-! ## Values that cannot be looked up

Each predicate of this kind is told from the data alone: how far one has to go down, and what stands
there. -/

/-- A fault of the document, or one that a value of some type cannot be looked up. -/
inductive Refusal (stands : String → Prop) : Fault → Prop
  | document (fault : DocumentFault) : Refusal stands (.document fault)
  | unhashable {typeName : String} (found : stands typeName) :
      Refusal stands (.type (.unhashable typeName))

/-- A fault is told of more data when it is told of less. -/
theorem Refusal.mono {stands stands' : String → Prop} (h : ∀ t, stands t → stands' t)
    {fault : Fault} (hfault : Refusal stands fault) : Refusal stands' fault := by
  cases hfault with
  | document fault => exact .document fault
  | unhashable found => exact .unhashable (h _ found)

/-- The value of the location in an object, if it cannot be looked up, and its type. -/
def LocationUnhashable (object : Record) (typeName : String) : Prop :=
  ∃ v, object.get? keywordLocation = some v ∧ v.unhashable? = some typeName

/-- Somewhere in a query stands a location that cannot be looked up, next to the field to which it
    belongs.  Without the field it is a loose modifier, which is not looked up. -/
inductive Misplaced : Data → String → Prop
  | location {object : Record} {f : Field} {typeName : String} (known : f ∈ Field.vocabulary)
      (own : f.modifier = some keywordLocation) (field : object.contains (.text f.key) = true)
      (unhashable : LocationUnhashable object typeName) : Misplaced (.map object) typeName
  | group {object : Record} {objects : List Data} {d : Data} {typeName : String} (mode : Mode)
      (entry : (.text (groupKey mode), .list objects) ∈ object) (part : d ∈ objects)
      (within : Misplaced d typeName) : Misplaced (.map object) typeName
  | not {object : Record} {item : Data} {typeName : String}
      (entry : (.text notKey, item) ∈ object) (within : Misplaced item typeName) :
      Misplaced (.map object) typeName

/-- The same of a document: it stands in the tree, or a known filter has such a setting. -/
inductive MisplacedIn (document : Record) (typeName : String) : Prop
  | query {query : Data} (root : document.get? queryKey = some query)
      (within : Misplaced query typeName)
  | filter {filters : Record} {name : String} {setting : Data}
      (object : document.getD filterKey = .map filters)
      (entry : (.text name, setting) ∈ filters)
      (known : (Filters.settings.lookup name).isSome = true)
      (unhashable : setting.unhashable? = some typeName)

/-! ## Keys that are no texts

Only a document that is given as a mapping can have them. -/

/-- Somewhere in a query an object has a key that is no text, and this is the fault of that key. -/
inductive OddKey : Data → Fault → Prop
  | key {object : Record} {key : Scalar} {item : Data} (entry : (key, item) ∈ object)
      (odd : ∀ name, key ≠ .text name) : OddKey (.map object) (key.named fun _ => key.withoutPrefix)
  | group {object : Record} {objects : List Data} {d : Data} {fault : Fault} (mode : Mode)
      (entry : (.text (groupKey mode), .list objects) ∈ object) (part : d ∈ objects)
      (within : OddKey d fault) : OddKey (.map object) fault
  | not {object : Record} {item : Data} {fault : Fault} (entry : (.text notKey, item) ∈ object)
      (within : OddKey item fault) : OddKey (.map object) fault

/-- The same of a document; a key at its root or among its filters must only have a name. -/
inductive OddKeyIn (document : Record) : Fault → Prop
  | query {query : Data} {fault : Fault} (root : document.get? queryKey = some query)
      (within : OddKey query fault) : OddKeyIn document fault
  | root {key : Scalar} {item : Data} (entry : (key, item) ∈ document)
      (long : key.isTooLong = true) : OddKeyIn document (.type (.json .integer))
  | filter {filters : Record} {key : Scalar} {item : Data}
      (object : document.getD filterKey = .map filters) (entry : (key, item) ∈ filters)
      (long : key.isTooLong = true) : OddKeyIn document (.type (.json .integer))

/-- A key that is no text has no name, is asked for a text in bytes, or has no first character. -/
theorem OddKey.fault_eq {d : Data} {fault : Fault} (h : OddKey d fault) :
    fault = .type (.json .integer) ∨ fault = .type .bytesPrefix ∨
      ∃ typeName, fault = .noAttribute typeName "startswith" := by
  induction h with
  | @key object key item entry odd =>
    rcases key.named_cases fun _ => key.withoutPrefix with hnamed | ⟨-, hnamed⟩
    · rw [hnamed]
      unfold Scalar.withoutPrefix
      split
      · exact .inr (.inl rfl)
      · exact .inr (.inr ⟨_, rfl⟩)
    · exact .inl hnamed
  | group mode entry part within ih => exact ih
  | not entry within ih => exact ih

/-- So it is for a document: what is added is that a key cannot be named. -/
theorem OddKeyIn.fault_eq {document : Record} {fault : Fault} (h : OddKeyIn document fault) :
    fault = .type (.json .integer) ∨ fault = .type .bytesPrefix ∨
      ∃ typeName, fault = .noAttribute typeName "startswith" := by
  cases h with
  | query root within => exact within.fault_eq
  | root entry long => exact .inl rfl
  | filter object entry long => exact .inl rfl

/-- In data of the shape of JSON all keys are texts. -/
theorem Json.not_oddKey {d : Data} (h : Shaped d) {fault : Fault} : ¬ OddKey d fault := by
  intro hodd
  induction hodd with
  | key entry odd =>
    cases h with
    | map keys each =>
      obtain ⟨name, hname⟩ := keys _ entry
      exact odd name hname
  | group mode entry part within ih =>
    cases h with
    | map keys each =>
      cases each _ entry with
      | list items => exact ih (items _ part)
  | not entry within ih =>
    cases h with
    | map keys each => exact ih (each _ entry)

/-- Nor are there any in a document of that shape, at its root or among its filters. -/
theorem Json.not_oddKeyIn {document : Record} (h : Shaped (.map document)) {fault : Fault} :
    ¬ OddKeyIn document fault := by
  -- a key that is a text is never too long
  have hshort : ∀ {entries : Record} {key : Scalar} {item : Data}, Shaped (.map entries) →
      (key, item) ∈ entries → key.isTooLong = false := by
    intro entries key item hentries hmem
    cases hentries with
    | map keys each =>
      obtain ⟨name, rfl⟩ := keys _ hmem
      rfl
  intro hodd
  cases hodd with
  | query root within => exact not_oddKey (shaped_of_get? h root) within
  | root entry long => rw [hshort h entry] at long; cases long
  | filter object entry long =>
    have hfilters := shaped_of_getD h filterKey
    rw [object] at hfilters
    rw [hshort hfilters entry] at long
    cases long

/-! ## Values that cannot be quoted

The message for a value that should be a count quotes it. -/

/-- The argument is no integer and cannot be written out either, so the message that it is no
    integer cannot quote it. -/
def Argument.Unquotable (a : Argument) : Prop :=
  a.isTooLong = true ∧ ∀ n : Int, a ≠ .data (.int n)

/-- The fault of such a message is that of writing out the integer. -/
def Argument.QuoteFault (a : Argument) (fault : Fault) : Prop :=
  a.Unquotable ∧ fault = .type (.json .integer)

/-- A value stands under a field: alone, in a list, or in a list under the way in which the values
    combine. -/
inductive Beneath : Data → Data → Prop
  | alone (d : Data) : Beneath d d
  | list {ds : List Data} {d : Data} (part : d ∈ ds) : Beneath (.list ds) d
  | group {ds : List Data} {d : Data} (mode : Mode) (part : d ∈ ds) :
      Beneath (.map [(.text (groupKey mode), .list ds)]) d

/-- Somewhere in a query a value stands under a field of counts that cannot be quoted.  Lists and
    mappings are refused there before they are looked into, so it is a tuple. -/
inductive Unquoted : Data → Prop
  | value {object : Record} {f : Field} {item d : Data} (known : f ∈ Field.vocabulary)
      (counts : f.kind = .count) (entry : (.text f.key, item) ∈ object)
      (beneath : Beneath item d) (flat : isNested d = false)
      (unquotable : (Argument.data d).Unquotable) : Unquoted (.map object)
  | group {object : Record} {objects : List Data} {d : Data} (mode : Mode)
      (entry : (.text (groupKey mode), .list objects) ∈ object) (part : d ∈ objects)
      (within : Unquoted d) : Unquoted (.map object)
  | not {object : Record} {item : Data} (entry : (.text notKey, item) ∈ object)
      (within : Unquoted item) : Unquoted (.map object)

/-- The same of a document. -/
def UnquotedIn (document : Record) : Prop :=
  ∃ query, document.get? queryKey = some query ∧ Unquoted query

/-- What stands under a field in data of the shape of JSON has that shape. -/
theorem Json.shaped_of_beneath {item d : Data} (h : Shaped item) (hbeneath : Beneath item d) :
    Shaped d := by
  cases hbeneath with
  | alone => exact h
  | list part =>
    cases h with
    | list items => exact items d part
  | group mode part =>
    cases h with
    | map keys each =>
      cases each _ List.mem_cons_self with
      | list items => exact items d part

/-- In data of the shape of JSON there are no tuples, and whatever is neither a list nor a mapping
    nor an integer can be written out. -/
theorem Json.not_unquoted {d : Data} (h : Shaped d) : ¬ Unquoted d := by
  intro hunquoted
  induction hunquoted with
  | value known counts entry beneath flat unquotable =>
    cases h with
    | map keys each =>
      obtain ⟨hlong, hother⟩ := unquotable
      cases shaped_of_beneath (each _ entry) beneath with
      | int n => exact hother n rfl
      | list _ | map _ _ => cases flat
      | _ => cases hlong
  | group mode entry part within ih =>
    cases h with
    | map keys each =>
      cases each _ entry with
      | list items => exact ih (items _ part)
  | not entry within ih =>
    cases h with
    | map keys each => exact ih (each _ entry)

/-- So there are none in a document of that shape. -/
theorem Json.not_unquotedIn {document : Record} (h : Shaped (.map document)) :
    ¬ UnquotedIn document := by
  rintro ⟨query, hquery, hunquoted⟩
  exact not_unquoted (shaped_of_get? h hquery) hunquoted

/-! ## Objects of a query

What goes wrong in a part of an object goes wrong in the object, in each of the three ways. -/

/-- An object of a query is refused as part of the document, or by a value that cannot be looked up,
    or by a key that is no text, or by a value that cannot be quoted. -/
def Unread (d : Data) (fault : Fault) : Prop :=
  Refusal (Misplaced d) fault ∨ OddKey d fault ∨ Unquoted d ∧ fault = .type (.json .integer)

namespace Unread

variable {object : Record} {fault : Fault}

/-- Every fault of the document will do. -/
theorem document (d : Data) (fault : DocumentFault) : Unread d (.document fault) :=
  .inl (.document fault)

/-- What one of the objects of a combination is refused with, the combination is refused with. -/
theorem group {objects : List Data} {d : Data} {mode : Mode}
    (entry : (.text (groupKey mode), .list objects) ∈ object) (part : d ∈ objects)
    (h : Unread d fault) : Unread (.map object) fault := by
  rcases h with hrefusal | hodd | ⟨hunquoted, hfault⟩
  · exact .inl (hrefusal.mono fun t hwithin => .group mode entry part hwithin)
  · exact .inr (.inl (.group mode entry part hodd))
  · exact .inr (.inr ⟨.group mode entry part hunquoted, hfault⟩)

/-- What the object of a negation is refused with, the negation is refused with. -/
theorem not {item : Data} (entry : (.text notKey, item) ∈ object) (h : Unread item fault) :
    Unread (.map object) fault := by
  rcases h with hrefusal | hodd | ⟨hunquoted, hfault⟩
  · exact .inl (hrefusal.mono fun t hwithin => .not entry hwithin)
  · exact .inr (.inl (.not entry hodd))
  · exact .inr (.inr ⟨.not entry hunquoted, hfault⟩)

end Unread

/-! ## Fields

The checks of the vocabulary, and then what stands under a field. -/

namespace Field

variable {f : Field}

/-- A value of a field is refused as an expression or as a date, unless it should be a count and
    cannot be quoted.  Which texts are dates does not matter: what no reader takes for a day is
    refused as a date. -/
theorem normalizeValue_refuses [MomentReader] (a : Argument) :
    RefusesOnly (fun fault => (∃ e, fault = .expression e) ∨ (∃ e, fault = .date e) ∨
        f.kind = .count ∧ a.QuoteFault fault)
      (f.normalizeValue a) := by
  intro fault h
  unfold normalizeValue at h
  split at h
  · cases hday : (dateText a).map Data.text with
    | ok d => rw [hday] at h; cases h
    | error e => rw [hday] at h; cases h; exact Or.inr (Or.inl ⟨e, rfl⟩)
  · next hkind =>
    split at h
    · split at h
      · cases h; exact Or.inl ⟨_, rfl⟩
      · cases h
    · next hother =>
      cases h
      unfold notCount
      split
      -- the message quotes the value, and that is what fails
      · next hlong => exact Or.inr (Or.inr ⟨hkind, ⟨hlong, hother⟩, rfl⟩)
      · exact Or.inl ⟨_, rfl⟩
  -- tokens and URIs
  all_goals
    split at h
    · simp only [] at h
      split at h
      · cases h; exact Or.inl ⟨_, rfl⟩
      · cases h
    · cases h; exact Or.inl ⟨_, rfl⟩

/-- A modifier is refused as an expression, but for a location that cannot be looked up. -/
theorem checkModifier_refuses (name : String) (a : Argument) :
    RefusesOnly (fun fault => (∃ e, fault = .expression e) ∨
        ∃ t, fault = .type (.unhashable t) ∧ f.modifier = some keywordLocation ∧
          name = keywordLocation ∧ a.unhashable? = some t)
      (f.checkModifier name a) := by
  intro fault h
  unfold checkModifier at h
  split at h
  · cases h; exact Or.inl ⟨_, rfl⟩
  · next hown =>
    split at h
    · next hname =>
      split at h
      · next t ht =>
        cases h
        have hmodifier : f.modifier = some name := Decidable.not_not.mp hown
        exact Or.inr ⟨t, rfl, hname ▸ hmodifier, hname, ht⟩
      · split at h
        · split at h
          · cases h
          · cases h; exact Or.inl ⟨_, rfl⟩
        · cases h; exact Or.inl ⟨_, rfl⟩
    · split at h
      · cases h
      · cases h; exact Or.inl ⟨_, rfl⟩

end Field

namespace Grammar

variable {object : Record} {f : Field} {path : String}

/-- The location that belongs to a field cannot be looked up in the object. -/
def FieldMisplaced (object : Record) (f : Field) (typeName : String) : Prop :=
  f.modifier = some keywordLocation ∧ LocationUnhashable object typeName

/-- The modifier of a field in an object is refused as an expression, unless it is a location that
    cannot be looked up. -/
theorem checkModifiers_refuses :
    RefusesOnly (fun fault => (∃ e, fault = .expression e) ∨
        ∃ t, fault = .type (.unhashable t) ∧ FieldMisplaced object f t)
      (f.checkModifiers (modifiersFor object f)) := by
  have hgiven : ∀ m ∈ modifiersOf object f, object.get? m.1 = some m.2 :=
    fun m hm => (mem_modifiersOf.mp hm).2
  rw [modifiersFor_eq]
  generalize modifiersOf object f = given at hgiven
  induction given with
  | nil => exact .ok _
  | cons m rest ih =>
    obtain ⟨hm, hrest⟩ := List.forall_mem_cons.mp hgiven
    refine .bind ((Field.checkModifier_refuses m.1 (.data m.2)).mono ?_) ?_
    · rintro fault (hexpression | ⟨t, hfault, hown, hname, ht⟩)
      · exact Or.inl hexpression
      · exact Or.inr ⟨t, hfault, hown, m.2, hname ▸ hm, ht⟩
    · intro _ _
      exact .bind (ih hrest) fun _ _ => .ok _

/-- A field is refused as part of the document, by such a location, or by one of the values given
    for it that cannot be quoted. -/
def FieldUnread (object : Record) (f : Field) (given : Data → Prop) (fault : Fault) : Prop :=
  Refusal (FieldMisplaced object f) fault ∨
    f.kind = .count ∧ ∃ d, given d ∧ isNested d = false ∧ (Argument.data d).QuoteFault fault

section Values

variable {given : Data → Prop}

/-- Every fault of the document will do here, too. -/
theorem FieldUnread.document (fault : DocumentFault) :
    FieldUnread object f given (.document fault) :=
  .inl (.document fault)

/-- A condition is refused so once its fault has been given the path. -/
theorem make_refuses [MomentReader] {d : Data} (hgiven : given d) (hflat : isNested d = false) :
    RefusesOnly (fun fault => FieldUnread object f given (atPath path fault))
      (Condition.make f (.data d) (modifiersFor object f)) := by
  refine .bind (checkModifiers_refuses.mono ?_) fun _ _ =>
    .bind ((Field.normalizeValue_refuses _).mono ?_) fun _ _ => .ok _
  · rintro fault (⟨e, rfl⟩ | ⟨t, rfl, hmisplaced⟩)
    · exact .document _
    · exact .inl (.unhashable hmisplaced)
  · rintro fault (⟨e, rfl⟩ | ⟨e, rfl⟩ | ⟨hcounts, hunquotable, rfl⟩)
    · exact .document _
    · exact .document _
    · exact .inr ⟨hcounts, d, hgiven, hflat, hunquotable, rfl⟩

/-- So are the conditions for several values. -/
theorem readValues_refuses [MomentReader] {ds : List Data} (hgiven : ∀ d ∈ ds, given d) :
    RefusesOnly (FieldUnread object f given) (readValues f (modifiersFor object f) path ds) := by
  induction ds with
  | nil => exact .ok _
  | cons d rest ih =>
    obtain ⟨hd, hrest⟩ := List.forall_mem_cons.mp hgiven
    rw [readValues]
    split
    · exact .error (.document _)
    · next hnested =>
      have hmake : RefusesOnly (fun fault => FieldUnread object f given (atPath path fault))
          (Condition.make f (.data d) (modifiersFor object f)) :=
        make_refuses hd (by simpa using hnested)
      exact .bind (hmake.mapError fun _ h => h) fun _ _ => .bind (ih hrest) fun _ _ => .ok _

end Values

/-- What stands under a field has one of three forms, or is refused as part of the document. -/
theorem fieldValues_refuses {given : Data → Prop} (item : Data) :
    RefusesOnly (FieldUnread object f given) (fieldValues f path item) := by
  intro fault h
  unfold fieldValues at h
  split at h
  · split at h
    · split at h
      · cases h
      · cases h; exact .document _
    · cases h; exact .document _
  · cases h; exact .document _
  · cases h
  · cases h

/-- The values that are taken from what stands under a field stand there. -/
theorem beneath_of_fieldValues {item : Data} {mode : Mode} {values : List Data}
    (h : fieldValues f path item = .ok (mode, values)) : ∀ d ∈ values, Beneath item d := by
  intro d hd
  unfold fieldValues at h
  split at h
  · next key inner =>
    split at h
    · next hkey =>
      split at h
      · cases h
        rcases hkey with rfl | rfl
        · exact .group .all hd
        · exact .group .any hd
      · cases h
    · cases h
  · cases h
  · cases h
    exact .list hd
  · cases h
    rw [List.mem_singleton.mp hd]
    exact .alone _

/-- **What stands under a field is refused as part of the document, by the location next to it, or
    by a value that cannot be quoted.**  Its values are taken out first, and each of them becomes a
    condition. -/
theorem readField_refuses [MomentReader] (item : Data) :
    RefusesOnly (FieldUnread object f (Beneath item))
      (readField f (modifiersFor object f) path item) := by
  refine .bind (fieldValues_refuses item) ?_
  rintro ⟨mode, values⟩ hvalues
  simp only []
  split
  · exact .error (.document _)
  · split
    · exact .error (.document _)
    · exact (readValues_refuses (beneath_of_fieldValues hvalues)).map

/-! ## Objects within objects

Four functions call each other, and their lemmas are proved together, by induction on the value that
is read.  The paths change on the way down and do not matter. -/

/-- The entries before some others leave the faults of those. -/
theorem followedBy_refuses {P : Fault → Prop} {node : Except Fault Node}
    {others : Except Fault (List Node)} (hnode : RefusesOnly P node)
    (hothers : RefusesOnly P others) : RefusesOnly P (followedBy node others) :=
  .bind hnode fun _ _ => .bind hothers fun _ _ => .ok _

/-- An entry under a key that is nothing of the language is refused as part of the document. -/
theorem readEntries_unknown_refuses [MomentReader] {P : Fault → Prop}
    (hP : ∀ fault, P (.document fault)) {key : String} {item : Data} {rest : List (Scalar × Data)}
    (hmodifier : key ∉ Field.modifierNames) (hgroup : ∀ mode, key ≠ groupKey mode)
    (hnot : key ≠ notKey) (hfield : Field.ofKey? key = none) :
    RefusesOnly P (readEntries path object ((.text key, item) :: rest)) := by
  have hkey : Field.modifierNames.contains key = false := by simpa using hmodifier
  have hand : key ≠ andKey := hgroup .all
  have hor : key ≠ orKey := hgroup .any
  intro fault h
  simp only [readEntries, hkey, hand, hor, hnot, hfield, Bool.false_eq_true, if_false] at h
  split at h <;> cases h <;> exact hP _

mutual

/-- **An object is refused as part of the document, unless one of the gaps is in it.**  Its entries
    are read first; then a loose modifier is refused as part of the document. -/
theorem object_refuses [MomentReader] : ∀ (d : Data) (path : String),
    RefusesOnly (Unread d) (readObject path d)
  | .map [], _ => .error (.document _ _)
  | .map (entry :: rest), path => by
    have hentries := entries_refuse (entry :: rest) (entry :: rest) path fun e he => he
    rw [readObject]
    refine .bind hentries fun nodes _ => ?_
    split
    · exact .ok _
    · exact .error (.document _ _)
    exact List.cons_ne_nil _ _
  | .scalar _, _ => .error (.document _ _)
  | .list _, _ => .error (.document _ _)
  | .tuple _, _ => .error (.document _ _)

/-- So are entries of an object.  The key of the first one decides: a modifier is passed over, an
    operator or a negation leads to objects further down, a field to values, any other text is
    refused, and what is no text is an odd key. -/
theorem entries_refuse [MomentReader] : ∀ (entries : List (Scalar × Data)) (object : Record)
    (path : String), (∀ e ∈ entries, e ∈ object) →
    RefusesOnly (Unread (.map object)) (readEntries path object entries)
  | [], _, _, _ => .ok _
  | (key, item) :: rest, object, path, hmem => by
    obtain ⟨hentry, hrestMem⟩ := List.forall_mem_cons.mp hmem
    have hothers := entries_refuse rest object path hrestMem
    by_cases htext : ∃ name, key = .text name
    · obtain ⟨name, rfl⟩ := htext
      -- a modifier is no node of its own
      by_cases hmodifier : name ∈ Field.modifierNames
      · rw [readEntries_modifier _ _ _ _ hmodifier]
        exact hothers
      -- the objects of a combination: what one of them is refused with
      by_cases hgroup : ∃ mode, name = groupKey mode
      · obtain ⟨mode, rfl⟩ := hgroup
        rw [readEntries_group]
        refine followedBy_refuses ((group_refuses item mode _).mono fun fault => ?_) hothers
        rintro (⟨f, rfl⟩ | ⟨objects, d, rfl, hd, hunread⟩)
        · exact .document _ f
        · exact .group hentry hd hunread
      -- the object of a negation
      by_cases hnot : name = notKey
      · subst hnot
        rw [readEntries_not]
        refine followedBy_refuses ((object_refuses item _).map.mono fun fault => ?_) hothers
        exact Unread.not hentry
      -- a field, with the location that stands next to it in the object
      cases hfield : Field.ofKey? name with
      | some f =>
        obtain ⟨hf, rfl⟩ := Field.mem_vocabulary_of_ofKey? hfield
        rw [readEntries_field _ _ _ _ hf]
        refine followedBy_refuses ((readField_refuses item).mono fun fault => ?_) hothers
        rintro (hrefusal | ⟨hcounts, d, hbeneath, hflat, hunquotable, hfault⟩)
        · refine .inl (hrefusal.mono ?_)
          rintro t ⟨hown, hlocation⟩
          have hcontains : object.contains (.text f.key) = true :=
            List.any_eq_true.mpr ⟨_, hentry, by simp⟩
          exact .location hf hown hcontains hlocation
        · exact .inr (.inr ⟨.value hf hcounts hentry hbeneath hflat hunquotable, hfault⟩)
      | none =>
        have hother : ∀ mode, name ≠ groupKey mode := fun mode heq => hgroup ⟨mode, heq⟩
        exact readEntries_unknown_refuses (.document _) hmodifier hother hnot hfield
    · have hodd : ∀ name, key ≠ .text name := fun name h => htext ⟨name, h⟩
      rw [readEntries_odd _ _ _ _ hodd]
      exact .error (.inr (.inl (.key hentry hodd)))

/-- So is a list of objects.  Anything but a list with an object in it is refused as part of the
    document. -/
theorem group_refuses [MomentReader] : ∀ (item : Data) (mode : Mode) (path : String),
    RefusesOnly (fun fault => (∃ f, fault = .document f) ∨
        ∃ objects d, item = .list objects ∧ d ∈ objects ∧ Unread d fault)
      (readGroup mode path item)
  | .list [], _, _ => .error (.inl ⟨_, rfl⟩)
  | .list (first :: rest), mode, path => by
    have hobjects := objects_refuse (first :: rest) path 0
    rw [readGroup]
    · refine hobjects.map.mono fun fault => ?_
      rintro ⟨d, hd, hunread⟩
      exact .inr ⟨_, d, rfl, hd, hunread⟩
    · exact List.cons_ne_nil _ _
  | .scalar _, _, _ => .error (.inl ⟨_, rfl⟩)
  | .map _, _, _ => .error (.inl ⟨_, rfl⟩)
  | .tuple _, _, _ => .error (.inl ⟨_, rfl⟩)

/-- Objects are read one after the other, up to the first that is refused. -/
theorem objects_refuse [MomentReader] : ∀ (objects : List Data) (path : String) (index : Nat),
    RefusesOnly (fun fault => ∃ d ∈ objects, Unread d fault) (readObjects path index objects)
  | [], _, _ => .ok _
  | object :: rest, path, index => by
    rw [readObjects]
    refine .bind ((object_refuses object _).mono fun fault hunread => ?_) fun _ _ => ?_
    · exact ⟨object, List.mem_cons_self, hunread⟩
    · refine .bind ((objects_refuse rest path (index + 1)).mono fun fault => ?_) fun _ _ => .ok _
      rintro ⟨d, hd, hunread⟩
      exact ⟨d, List.mem_cons_of_mem object hd, hunread⟩

end

end Grammar

/-! ## Filters

Filters are looked up by name, and their settings among those that the name allows. -/

namespace Filters

/-- A filter is refused as part of the document, unless it is known and its setting cannot be looked
    up, or its name cannot be shown. -/
theorem check_refuses (key : Scalar) (setting : Argument) :
    RefusesOnly (fun fault => Refusal (fun t => ∃ name, key = .text name ∧
          (settings.lookup name).isSome = true ∧ setting.unhashable? = some t) fault ∨
        key.isTooLong = true ∧ fault = .type (.json .integer))
      (check key setting) := by
  intro fault h
  unfold check at h
  split at h
  · next name =>
    split at h
    · cases h; exact .inl (.document _)
    · next allowed hknown =>
      split at h
      · next t ht => cases h; exact .inl (.unhashable ⟨name, rfl, by rw [hknown]; rfl, ht⟩)
      · split at h
        · split at h
          · cases h
          · cases h; exact .inl (.document _)
        · cases h; exact .inl (.document _)
  · cases h
    rcases key.named_cases fun name => .document (.filter (.unknown name)) with
      hnamed | ⟨hlong, hnamed⟩
    · rw [hnamed]; exact .inl (.document _)
    · exact .inr ⟨hlong, hnamed⟩

/-- Filters are refused as part of the document, unless one of them is. -/
theorem parse_refuses (d : Data) :
    RefusesOnly (fun fault => Refusal (fun t => ∃ filters name setting, d = .map filters ∧
          (.text name, setting) ∈ filters ∧ (settings.lookup name).isSome = true ∧
          setting.unhashable? = some t) fault ∨
        ∃ filters key setting, d = .map filters ∧ (key, setting) ∈ filters ∧
          key.isTooLong = true ∧ fault = .type (.json .integer))
      (parse (.data d)) := by
  unfold parse
  split
  · exact .ok _
  · cases d with
    | map filters =>
      simp only [Argument.entries?]
      -- by induction on the entries that are left, all of which are entries of the object
      have hentries : ∀ entries : Record, (∀ e ∈ entries, e ∈ filters) →
          RefusesOnly (fun fault => ∃ key setting, (key, setting) ∈ filters ∧
              (Refusal (fun t => ∃ name, key = .text name ∧ (settings.lookup name).isSome = true ∧
                  setting.unhashable? = some t) fault ∨
                key.isTooLong = true ∧ fault = .type (.json .integer)))
            (parseEntries (entries.map fun e => (e.1, .data e.2))) := by
        intro entries hmem
        induction entries with
        | nil => exact .ok _
        | cons entry rest ih =>
          obtain ⟨hentry, hrest⟩ := List.forall_mem_cons.mp hmem
          obtain ⟨key, setting⟩ := entry
          refine .bind ((check_refuses key (.data setting)).mono fun fault hfault => ?_) fun _ _ =>
            .bind (ih hrest) fun _ _ => .ok _
          exact ⟨key, setting, hentry, hfault⟩
      refine (hentries filters fun e he => he).mono fun fault => ?_
      rintro ⟨key, setting, hentry, hrefusal | ⟨hlong, hfault⟩⟩
      · refine .inl (hrefusal.mono ?_)
        rintro t ⟨name, rfl, hknown, ht⟩
        exact ⟨filters, name, setting, rfl, hentry, hknown, ht⟩
      · exact .inr ⟨filters, key, setting, rfl, hentry, hlong, hfault⟩
    | _ => exact .error (.inl (.document _))

end Filters

/-! ## Documents

The root has its own keys, and then comes the query, and then come the filters. -/

namespace ParsedDocument

/-- A document is refused as such, unless something in it cannot be looked up, one of its keys is no
    text, or a value in it cannot be quoted. -/
theorem ofRecord_refuses [MomentReader] (document : Record) :
    RefusesOnly (fun fault => Refusal (MisplacedIn document) fault ∨ OddKeyIn document fault ∨
        UnquotedIn document ∧ fault = .type (.json .integer))
      (ofRecord document) := by
  unfold ofRecord
  split
  · next key hstray =>
    obtain ⟨e, hmem, rfl⟩ := List.mem_map.mp (List.mem_of_find?_eq_some hstray)
    rcases e.1.named_cases fun name => .document (.unknownRootKey name) with
      hnamed | ⟨hlong, hnamed⟩
    · rw [hnamed]; exact .error (.inl (.document _))
    · rw [hnamed]; exact .error (.inr (.inl (.root hmem hlong)))
  · split
    · exact .error (.inl (.document _))
    · next query hquery =>
      refine .bind ((Grammar.object_refuses query queryKey).mono fun fault => ?_) fun root _ => ?_
      · rintro (hrefusal | hodd | ⟨hunquoted, hfault⟩)
        · exact .inl (hrefusal.mono fun t hwithin => .query hquery hwithin)
        · exact .inr (.inl (.query hquery hodd))
        · exact .inr (.inr ⟨⟨query, hquery, hunquoted⟩, hfault⟩)
      refine .bind ((Filters.parse_refuses _).mono fun fault => ?_) fun _ _ => .ok _
      rintro (hrefusal | ⟨filters, key, setting, hobject, hentry, hlong, rfl⟩)
      · refine .inl (hrefusal.mono ?_)
        rintro t ⟨filters, name, setting, hobject, hentry, hknown, ht⟩
        exact .filter hobject hentry hknown ht
      · exact .inr (.inl (.filter hobject hentry hlong))

/-- A document is given as an object or as the text of one. -/
inductive Holds : Data → Record → Prop
  | object (document : Record) : Holds (.map document) document
  | text {s : String} {document : Record} (reads : Json.read s = .ok (.map document)) :
      Holds (.text s) document

/-- How reading a source may end. -/
inductive Ending (source : Data) : Except Fault ParsedDocument → Prop
  | accepted (p : ParsedDocument) : Ending source (.ok p)
  | refused (fault : DocumentFault) : Ending source (.error (.document fault))
  /-- Something in the document cannot be looked up. -/
  | unhashable {document : Record} {typeName : String} (holds : Holds source document)
      (misplaced : MisplacedIn document typeName) :
      Ending source (.error (.type (.unhashable typeName)))
  /-- The source is a text with an integer of too many digits. -/
  | integer {s : String} {digits : Nat} (text : source = .text s)
      (reads : Json.read s = .error (.tooManyDigits digits)) :
      Ending source (.error (.value (.integer (.tooManyDigits digits))))

/-- A source that holds a document ends as reading that document does. -/
theorem ending_of_ofRecord [MomentReader] {source : Data} {document : Record}
    (hholds : Holds source document) (h : Json.Shaped (.map document)) :
    Ending source (ofRecord document) := by
  rcases (ofRecord_refuses document).cases with
    ⟨p, hread⟩ | ⟨_, hfault, (⟨fault⟩ | ⟨hmisplaced⟩) | hodd | ⟨hunquoted, -⟩⟩
  · rw [hread]
    exact .accepted p
  · rw [hfault]
    exact .refused fault
  · rw [hfault]
    exact .unhashable hholds hmisplaced
  · exact absurd hodd (Json.not_oddKeyIn h)
  · exact absurd hunquoted (Json.not_unquotedIn h)

/-- Reading a text ends in one of these ways, whatever the text is: what it is read as has the shape
    of JSON. -/
theorem ending_of_text [MomentReader] (s : String) : Ending (.text s) (parse (.text s)) := by
  rw [parse]
  split
  · next document hread => exact ending_of_ofRecord (.text hread) (Json.shaped_of_read hread)
  · exact .refused _
  · next digits hread => exact .integer rfl hread
  · exact .refused _

/-- **How reading ends.**  Reading a value of the shape of JSON ends with a document or with a fault
    of the document, unless something in the document cannot be looked up or the text has an integer
    of too many digits.  The gaps of odd keys and of values that cannot be quoted do not occur in
    that shape. -/
theorem parse_ends [MomentReader] {source : Data} (h : Json.Shaped source) :
    Ending source (parse source) := by
  by_cases htext : ∃ s, source = .text s
  · obtain ⟨s, rfl⟩ := htext
    exact ending_of_text s
  · unfold parse
    split
    · next s => exact absurd ⟨s, rfl⟩ htext
    · next document => exact ending_of_ofRecord (.object document) h
    · exact .refused _

/-- How any data that is no document is refused: as a document, by something in it that cannot be
    looked up, by one of its keys, by a value that cannot be quoted, or by an integer of too many
    digits. -/
inductive Refused (source : Data) : Fault → Prop
  | document (fault : DocumentFault) : Refused source (.document fault)
  | unhashable (typeName : String) : Refused source (.type (.unhashable typeName))
  | oddKey {document : Record} {fault : Fault} (object : source = .map document)
      (odd : OddKeyIn document fault) : Refused source fault
  | unquoted {document : Record} (object : source = .map document)
      (unquoted : UnquotedIn document) : Refused source (.type (.json .integer))
  | integer {s : String} {digits : Nat} (text : source = .text s)
      (reads : Json.read s = .error (.tooManyDigits digits)) :
      Refused source (.value (.integer (.tooManyDigits digits)))

/-- Reading any data refuses in one of these ways. -/
theorem parse_refuses [MomentReader] (source : Data) :
    RefusesOnly (Refused source) (parse source) := by
  by_cases htext : ∃ s, source = .text s
  · obtain ⟨s, rfl⟩ := htext
    intro fault hfault
    have hends := ending_of_text s
    rw [hfault] at hends
    cases hends with
    | refused fault => exact .document fault
    | unhashable holds misplaced => exact .unhashable _
    | integer text reads => exact .integer text reads
  · unfold parse
    split
    · next s => exact absurd ⟨s, rfl⟩ htext
    · next document =>
      refine (ofRecord_refuses document).mono fun fault => ?_
      rintro ((fault | found) | hodd | ⟨hunquoted, rfl⟩)
      · exact .document fault
      · exact .unhashable _
      · exact .oddKey rfl hodd
      · exact .unquoted rfl hunquoted
    · exact .error (.document _)

/-- A query with the location of a keyword in a list, inside a negation. -/
def listedLocation : Data :=
  .map [(.text queryKey, .map [(.text notKey, .map [(.text "keyword", .text "nasa"),
    (.text keywordLocation, .list [.text "title"])])])]

theorem shaped_listedLocation : Json.Shaped listedLocation := by
  have hsingle : ∀ {key d}, Json.Shaped d → Json.Shaped (.map [(.text key, d)]) := fun hd =>
    .map (List.forall_mem_singleton.mpr ⟨_, rfl⟩) (List.forall_mem_singleton.mpr hd)
  refine hsingle (hsingle (.map ?_ ?_))
  · exact List.forall_mem_cons.mpr ⟨⟨_, rfl⟩, List.forall_mem_singleton.mpr ⟨_, rfl⟩⟩
  · exact List.forall_mem_cons.mpr ⟨.text _, List.forall_mem_singleton.mpr
      (.list (List.forall_mem_singleton.mpr (.text _)))⟩

/-- Reading it ends because a list cannot be looked up, and that is the list. -/
theorem parse_ends_listedLocation :
    Json.Shaped listedLocation ∧
      parse listedLocation = .error (.type (.unhashable "list")) ∧
      ∃ document, Holds listedLocation document ∧ MisplacedIn document "list" := by
  have hparse : parse listedLocation = .error (.type (.unhashable "list")) := rfl
  have hends := parse_ends shaped_listedLocation
  rw [hparse] at hends
  cases hends with
  | unhashable hholds hmisplaced => exact ⟨shaped_listedLocation, hparse, _, hholds, hmisplaced⟩

/-- So not every refusal is a fault of the document. -/
theorem exists_refusal_not_document :
    ∃ source fault, Json.Shaped source ∧ parse source = .error fault ∧
      ∀ f, fault ≠ .document f :=
  ⟨listedLocation, .type (.unhashable "list"), shaped_listedLocation, rfl,
    fun _ h => by cases h⟩

end ParsedDocument

end NewsSearch
