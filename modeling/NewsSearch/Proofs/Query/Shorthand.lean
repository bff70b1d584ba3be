import NewsSearch.Proofs.Query.Acceptance
import NewsSearch.Proofs.Query.FlatMeaning
import NewsSearch.Proofs.Query.NormalForm

/-!
Flat searches as documents in shorthand.

What a flat search says can also be written as a document by hand, in the short forms of the query
language: each field under its key with its modifier next to it, and under `$not` what is left out.
`Flat.shorthand` writes this document from the parameters alone.  It makes no condition and checks
nothing, so that reading it is another way to get at the conditions.

The two ways decide the same questions at different places.  A reader of documents decides for each
object how the values in it combine and which modifier belongs to which field.  A flat search
decides this for each parameter, by its name.  That they agree is shown from the inside out.

1. *Values.* What stands under a field has one of the three forms of values, and the values combine
   as in the parameter (`item_form`).  A value alone has no way to combine, which makes no
   difference to the tree (`Node.joined_of_length`).
2. *Fields.* What is made of a parameter (`Made`) is what its entry stands for, in every object that
   has the modifiers of the side (`Made.fieldEntry`).
3. *Objects.* The entries of several fields are put into one object.  No two fields have a name in
   common (`vocabulary_names`), so each key is there once (`keysOnce_object`), a modifier that is
   found belongs to the field it was given for (`get?_object`), and thus every field finds its own
   (`modifiersOf_object`).  This is where a careless document would give a modifier to a field that
   has none.
4. *What is left out* stands behind the wanted fields, in an object for each field, so that no field
   finds the modifiers of another one there either (`tail_ignoredEntry`).
5. *The whole.* The document follows the grammar and stands for the tree of the search
   (`ofRecord_shorthand`).  The reader gives it in normal form, and it is in normal form but for the
   outermost combination.

By `Grammar` it is then read, as everything that follows the grammar is.

Main statement: `parse_shorthand`.
-/

namespace NewsSearch

open Grammar ParsedDocument

namespace Node

/-- One value makes the same tree in either way of combining. -/
theorem joined_of_length (mode other : Mode) {nodes : List Node} (h : nodes.length = 1) :
    joined mode nodes = joined other nodes := by
  obtain ⟨n, rfl⟩ := List.length_eq_one_iff.mp h
  cases mode <;> cases other <;> rfl

end Node

namespace Flat

/-! ## The document

The document is written side by side with the parameters: for each field one entry, and one more
when it has a modifier. -/

/-- The argument as it stands in a document.  What is no data has no place in one. -/
def written : Argument → Data
  | .data d => d
  | _ => .null

/-- Values under the way in which they combine. -/
def writtenGroup (mode : Mode) (values : List Argument) : Data :=
  .map [(.text (groupKey mode), .list (values.map written))]

/-- A plain list of values.  Any one of them is enough to leave something out, which has to be said,
    for in a document a plain list has the mode of its field. -/
def Side.writtenList (side : Side) (values : List Argument) : Data :=
  match side with
  | wanted => .list (values.map written)
  | ignored => writtenGroup .any values

/-- What stands under a field: the values of a wrapper in its mode, a plain list, or a single
    value. -/
def Side.item (side : Side) : Argument → Data
  | .wrapped mode values => writtenGroup mode values
  | a =>
    match a.items? with
    | some values => side.writtenList values
    | none => written a

/-- The entries for a field: what is given for it, and its modifier next to it. -/
def Side.entries (side : Side) (params : Params) (f : Field) : Record :=
  (.text f.key, side.item (side.given params f)) :: Record.ofTexts (side.modifiers params f)

/-- The entries for some fields, in order. -/
def Side.object (side : Side) (params : Params) (fields : List Field) : Record :=
  fields.flatMap (side.entries params)

/-- The entry for what is left out, of which there is an object for each field.  Several objects are
    put under one list, since any of them is enough to leave an item out. -/
def ignoredEntry : List Record → Record
  | [] => []
  | [object] => [(.text notKey, .map object)]
  | objects => [(.text notKey, .map [(.text orKey, .list (objects.map .map))])]

/-- The document that says what the parameters do: the fields that are wanted, in the order of the
    vocabulary, and last those that are left out.  A modifier has a place in it only next to its
    field. -/
def shorthand (params : Params) : Record :=
  let wanted := Side.wanted.populated params Field.vocabulary
  let ignored := Side.ignored.populated params Field.vocabulary
  [(.text queryKey, .map (Side.wanted.object params wanted ++
    ignoredEntry (ignored.map (Side.ignored.entries params))))]

variable {side : Side} {params : Params} {f : Field} {n : Node}

/-! ## Values

A parameter holds its values as a wrapper, as a list, or as one value, and in the document they are
written in a form of their own each. -/

/-- Scalars are written as they are. -/
theorem map_written (values : List Scalar) :
    (values.map fun s => Argument.data (.scalar s)).map written = values.map .scalar := by
  rw [List.map_map]
  rfl

/-- Values under a mode are in the form for groups. -/
theorem group_form (mode : Mode) (values : List Scalar) :
    Item f (writtenGroup mode (values.map fun s => .data (.scalar s))) mode values := by
  -- the word of the mode with the list under it is the third form of values
  rw [writtenGroup, map_written]
  exact .group mode values

/-- A plain list has the mode of its side, be it the one of the field or one that is written out. -/
theorem list_form (values : List Scalar) :
    Item f (side.writtenList (values.map fun s => .data (.scalar s))) (side.standardMode f)
      values := by
  cases side with
  | wanted =>
    rw [Side.writtenList, map_written]
    exact .list values
  | ignored => exact group_form .any values

/-- What is given is a wrapper, or its items, if it has some, combine in the standard way. -/
theorem wrapped_or_standard (side : Side) (a : Argument) :
    (∃ mode values, a = .wrapped mode values) ∨
    ((∀ standard, a.modeOr standard = standard) ∧ a.values = a.items?.getD [a] ∧
      side.item a = (a.items?.map side.writtenList).getD (written a)) := by
  cases a with
  | wrapped mode values => exact Or.inl ⟨mode, values, rfl⟩
  | data d =>
    cases d <;> exact Or.inr ⟨fun _ => rfl, rfl, rfl⟩
  | _ => exact Or.inr ⟨fun _ => rfl, rfl, rfl⟩

/-- What stands under a field has one of the forms for its values.  They combine as in the
    parameter, or there is only one. -/
theorem item_form {a : Argument} {values : List Scalar}
    (h : a.values = values.map fun s => .data (.scalar s)) :
    ∃ mode, Item f (side.item a) mode values ∧
      (mode = a.modeOr (side.standardMode f) ∨ values.length = 1) := by
  -- a wrapper brings its own mode along
  rcases wrapped_or_standard side a with ⟨mode, as, rfl⟩ | ⟨hmode, hvalues, hitem⟩
  · obtain rfl : as = values.map fun s => .data (.scalar s) := h
    exact ⟨mode, group_form mode values, Or.inl rfl⟩
  · rw [hvalues] at h
    cases hitems : a.items? with
    | some as =>
      rw [hitems] at h hitem
      obtain rfl : as = values.map fun s => .data (.scalar s) := h
      rw [hitem]
      exact ⟨_, list_form values, Or.inl (hmode _).symm⟩
    | none =>
      -- a value alone, whose form has the mode of the field and not that of the side
      rw [hitems] at h hitem
      obtain ⟨s, rfl, hs⟩ := List.map_eq_singleton_iff.mp (Eq.symm h)
      rw [hitem, ← hs]
      exact ⟨_, .single s, Or.inr rfl⟩

/-- **What is made of a parameter is what its entry stands for**, in an object that has the
    modifiers of the side.  Both make one condition for each value that is sent, with the same
    modifiers. -/
theorem Made.fieldEntry (h : Made side params f n) (hne : (side.given params f).values ≠ [])
    {object : Record} (hmodifiers : modifiersOf object f = side.modifiers params f) :
    FieldEntry object f (side.item (side.given params f)) n := by
  obtain @⟨values, sent, hgiven, hseveral, hsends, -⟩ := h
  have hvalues : values ≠ [] := by
    rintro rfl
    exact hne hgiven
  have hcondition : ∀ v, side.condition params f v = conditionOf object f v := by
    intro v
    rw [conditionOf, hmodifiers]
    rfl
  simp only [hcondition]
  obtain ⟨mode, hform, rfl | hone⟩ : ∃ mode, Item f (side.item (side.given params f)) mode values ∧
      (mode = (side.given params f).modeOr (side.standardMode f) ∨ values.length = 1) :=
    item_form hgiven
  · -- the modes are the same
    exact .mk hform hvalues hseveral hsends
  · -- there is one value, and the mode makes no difference
    rw [Node.joined_of_length _ mode (by rw [List.length_map, ← hsends.length_eq, hone])]
    exact .mk hform hvalues hseveral hsends

/-- The modifier of a side is one that is allowed, if some value is given with it.  Without a value
    nothing would have checked it. -/
theorem Made.allowed (h : Made side params f n) (hne : (side.given params f).values ≠ []) :
    ∀ m ∈ side.modifiers params f, AllowedModifier m.1 m.2 := by
  obtain @⟨values, sent, hgiven, -, hsends, hsendable⟩ := h
  -- a value that is sent has been checked together with its modifiers
  cases hsends with
  | nil => exact absurd hgiven hne
  | @cons s v _ _ _ _ =>
    rcases (hsendable v List.mem_cons_self).modifiers with hnil | ⟨name, d, -, hallowed, hone⟩
    · rw [show side.modifiers params f = [] from hnil]
      exact fun _ hm => absurd hm List.not_mem_nil
    · rw [show side.modifiers params f = [(name, d)] from hone]
      exact List.forall_mem_singleton.mpr hallowed

/-- It has no combination of a single part. -/
theorem Made.normalize_eq (h : Made side params f n) : n.normalize = n := by
  obtain ⟨-, -, -, -⟩ := h
  refine Node.normalize_joined _ ?_
  rw [List.forall_mem_map]
  exact fun _ _ => rfl

/-! ## Entries -/

/-- No two fields have a name in common, be it the key of one or its modifier. -/
theorem vocabulary_names : Field.vocabulary.Pairwise fun f g =>
    ∀ k ∈ f.key :: f.modifier.toList, ∀ l ∈ g.key :: g.modifier.toList, k ≠ l := by
  decide

/-- A modifier belongs to one field. -/
theorem eq_of_modifier {name : String} : ∀ f ∈ Field.vocabulary, ∀ g ∈ Field.vocabulary,
    f.modifier = some name → g.modifier = some name → f = g := by
  have hall : ∀ f ∈ Field.vocabulary, ∀ g ∈ Field.vocabulary,
      f.modifier.isSome = true → f.modifier = g.modifier → f = g := by decide
  intro f hf g hg hfirst hsecond
  exact hall f hf g hg (by rw [hfirst]; rfl) (hfirst.trans hsecond.symm)

/-- A side gives a field no modifier, or its own. -/
theorem modifiers_cases (side : Side) (params : Params) (f : Field) :
    side.modifiers params f = [] ∨
      ∃ name d, f.modifier = some name ∧ side.modifiers params f = [(name, d)] := by
  unfold Side.modifiers
  split
  · exact Or.inl rfl
  · next name hname =>
    split
    · exact Or.inl rfl
    · next d _ _ => exact Or.inr ⟨name, d, hname, rfl⟩
    · exact Or.inl rfl

/-- What a side gives to a field as a modifier is the modifier of the field. -/
theorem modifier_of_mem {m : String × Data} (h : m ∈ side.modifiers params f) :
    f.modifier = some m.1 := by
  rcases modifiers_cases side params f with hnil | ⟨name, d, hname, hone⟩
  · rw [hnil] at h
    cases h
  · rw [hone] at h
    rw [List.mem_singleton.mp h]
    exact hname

/-- The keys of the entries for a field are the key of the field and its modifier. -/
theorem key_of_mem_entries {e : Scalar × Data} (h : e ∈ side.entries params f) :
    ∃ name ∈ f.key :: f.modifier.toList, e.1 = .text name := by
  rcases List.mem_cons.mp h with rfl | h
  · exact ⟨f.key, List.mem_cons_self, rfl⟩
  · obtain ⟨m, hm, rfl⟩ := List.mem_map.mp h
    refine ⟨m.1, List.mem_cons_of_mem _ ?_, rfl⟩
    rw [modifier_of_mem hm]
    exact List.mem_singleton_self _

/-- Different texts are different keys. -/
theorem same_text_of_ne {k l : String} (h : k ≠ l) :
    (Scalar.text k).same (.text l) = false := by
  rw [← Bool.not_eq_true, Scalar.same_text_iff]
  rintro ⟨⟩
  exact h rfl

/-- The key of a field and that of its modifier are different. -/
theorem keysOnce_entries (side : Side) (params : Params) (hf : f ∈ Field.vocabulary) :
    Record.KeysOnce (side.entries params f) := by
  rw [Side.entries]
  rcases modifiers_cases side params f with hnil | ⟨name, d, hname, hone⟩
  · rw [hnil]
    exact List.pairwise_singleton _ _
  · rw [hone]
    have hne : f.key ≠ name := Field.key_ne_modifier hf (Field.mem_modifierNames hf hname)
    exact List.pairwise_pair.mpr (same_text_of_ne hne)

/-- What may stand in an object behind the fields: nothing, or what is left out.  It has no
    modifier. -/
inductive Tail : Record → List Node → Prop
  | none : Tail [] []
  | not {item : Data} {n : Node} (negated : Object item n) : Tail [(.text notKey, item)] [.not n]

variable {fields : List Field} {tail : Record} {others : List Node}

/-- The object with the entries of some fields has each key once. -/
theorem keysOnce_object (hfields : fields.Sublist Field.vocabulary) (htail : Tail tail others) :
    Record.KeysOnce (side.object params fields ++ tail) := by
  have hobject : Record.KeysOnce (side.object params fields) := by
    -- within the entries of a field keys differ, and so they do between two fields
    refine List.pairwise_flatMap.mpr ⟨?_, (vocabulary_names.sublist hfields).imp ?_⟩
    · exact fun f hf => keysOnce_entries side params (hfields.subset hf)
    · intro f g hne d hd e he
      obtain ⟨k, hk, hdkey⟩ := key_of_mem_entries hd
      obtain ⟨l, hl, hekey⟩ := key_of_mem_entries he
      rw [hdkey, hekey]
      exact same_text_of_ne (hne k hk l hl)
  cases htail with
  | none => rwa [List.append_nil]
  | not negated =>
    -- the key of what is left out is the name of no field and no modifier
    refine List.pairwise_append.mpr ⟨hobject, List.pairwise_singleton _ _, ?_⟩
    intro e he d hd
    obtain ⟨f, hf, he⟩ := List.mem_flatMap.mp he
    obtain ⟨k, hk, hkey⟩ := key_of_mem_entries he
    rw [List.mem_singleton.mp hd, hkey]
    refine same_text_of_ne ?_
    rintro rfl
    have hnot : ∀ f ∈ Field.vocabulary, notKey ∉ f.key :: f.modifier.toList := by decide
    exact hnot f (hfields.subset hf) hk

/-- **Modifiers in an object.** A modifier is found in the object when it is one of some field in
    it. -/
theorem get?_object (hfields : fields.Sublist Field.vocabulary) (htail : Tail tail others)
    {name : String} (hname : name ∈ Field.modifierNames) {v : Data} :
    Record.get? name (side.object params fields ++ tail) = some v ↔
      ∃ f ∈ fields, (name, v) ∈ side.modifiers params f := by
  rw [(keysOnce_object hfields htail).get?_eq_some_iff, List.mem_append, Side.object,
    List.mem_flatMap]
  constructor
  · -- a modifier is neither the key of a field nor that of what is left out
    rintro (⟨f, hf, hmem⟩ | hmem)
    · refine ⟨f, hf, ?_⟩
      rcases List.mem_cons.mp hmem with heq | hmem
      · have hne := Field.key_ne_modifier (hfields.subset hf) hname
        exact absurd (Scalar.text.inj (Prod.mk.inj heq).1).symm hne
      · obtain ⟨m, hm, heq⟩ := List.mem_map.mp hmem
        cases heq
        exact hm
    · cases htail with
      | none => cases hmem
      | not negated =>
        cases List.mem_singleton.mp hmem
        exact absurd hname (by decide)
  · rintro ⟨f, hf, hm⟩
    exact Or.inl ⟨f, hf, List.mem_cons_of_mem _ (List.mem_map.mpr ⟨(name, v), hm, rfl⟩)⟩

/-- The fields of the object have the modifiers of the side. -/
theorem modifiersOf_object (hfields : fields.Sublist Field.vocabulary) (htail : Tail tail others)
    (hf : f ∈ fields) :
    modifiersOf (side.object params fields ++ tail) f = side.modifiers params f := by
  have hknown := hfields.subset hf
  rcases modifiers_cases side params f with hnil | ⟨name, d, hname, hone⟩
  · -- another field in the object cannot have the modifier either
    rw [hnil, List.eq_nil_iff_forall_not_mem]
    intro m hm
    obtain ⟨hown, hget⟩ := mem_modifiersOf.mp hm
    have hmodifier := Field.mem_modifierNames hknown hown
    obtain ⟨g, hg, hmem⟩ := (get?_object hfields htail hmodifier).mp hget
    obtain rfl := eq_of_modifier f hknown g (hfields.subset hg) hown (modifier_of_mem hmem)
    rw [hnil] at hmem
    cases hmem
  · -- its own modifier stands in the object, since it stands among the entries of the field
    have hmodifier := Field.mem_modifierNames hknown hname
    have hget : Record.get? name (side.object params fields ++ tail) = some d :=
      (get?_object hfields htail hmodifier).mpr ⟨f, hf, hone ▸ List.mem_singleton_self _⟩
    rw [modifiersOf, hname, hone]
    simp only [hget]
    rfl

/-! ## Objects -/

/-- The entries of fields stand for what is made of the fields.  Modifiers between them are passed
    over, which the grammar does one entry at a time. -/
theorem entries_of_made {object : Record} {nodes : List Node}
    (h : List.Forall₂ (Made side params) fields nodes)
    (hknown : ∀ f ∈ fields, f ∈ Field.vocabulary)
    (hne : ∀ f ∈ fields, (side.given params f).values ≠ [])
    (hmodifiers : ∀ f ∈ fields, modifiersOf object f = side.modifiers params f)
    (htail : Entries object tail others) :
    Entries object (side.object params fields ++ tail) (nodes ++ others) := by
  -- modifiers do not add to what an object stands for
  have hskip : ∀ {ms : List (String × Data)} {rest : Record} {ns : List Node},
      (∀ m ∈ ms, m.1 ∈ Field.modifierNames) → Entries object rest ns →
      Entries object (Record.ofTexts ms ++ rest) ns := by
    intro ms rest ns hms hrest
    induction ms with
    | nil => exact hrest
    | cons m ms ih =>
      obtain ⟨hm, hms⟩ := List.forall_mem_cons.mp hms
      exact .modifier hm (ih hms)
  induction h with
  | nil => exact htail
  | @cons f n rest nodes hfirst hrest ih =>
    obtain ⟨hf, hknown⟩ := List.forall_mem_cons.mp hknown
    obtain ⟨hvalues, hne⟩ := List.forall_mem_cons.mp hne
    obtain ⟨hown, hmodifiers⟩ := List.forall_mem_cons.mp hmodifiers
    have hothers := ih hknown hne hmodifiers
    rw [Side.object, List.flatMap_cons, List.append_assoc]
    refine .node (.field hf (hfirst.fieldEntry hvalues hown)) (hskip ?_ hothers)
    exact fun m hm => Field.mem_modifierNames hf (modifier_of_mem hm)

/-- So does the object with these entries, for its modifiers fit. -/
theorem object_of_made {nodes : List Node} (h : List.Forall₂ (Made side params) fields nodes)
    (hfields : fields.Sublist Field.vocabulary)
    (hne : ∀ f ∈ fields, (side.given params f).values ≠ []) (htail : Tail tail others)
    (hsome : nodes ++ others ≠ []) :
    Object (.map (side.object params fields ++ tail)) (.allOf (nodes ++ others)) := by
  have hentries : Entries (side.object params fields ++ tail) (side.object params fields ++ tail)
      (nodes ++ others) := by
    refine entries_of_made h (fun f hf => hfields.subset hf) hne
      (fun f hf => modifiersOf_object hfields htail hf) ?_
    cases htail with
    | none => exact .nil
    | not negated => exact .node (.not negated) .nil
  refine .mk ?_ ?_ hentries
  · -- an object without entries would stand for nothing
    generalize side.object params fields ++ tail = object at hentries
    generalize nodes ++ others = parts at hentries hsome
    rintro rfl
    cases hentries
    exact hsome rfl
  · -- a modifier in the object is one of a field in it, for which some value was accepted
    intro name hname v hget
    obtain ⟨f, hf, hm⟩ := (get?_object hfields htail hname).mp hget
    obtain ⟨n, -, hmade⟩ := exists_of_mem_left h f hf
    refine ⟨hmade.allowed (hne f hf) _ hm, f, hfields.subset hf, modifier_of_mem hm, ?_⟩
    rw [Record.contains, List.any_eq_true]
    have hmem : (.text f.key, side.item (side.given params f)) ∈ side.object params fields :=
      List.mem_flatMap.mpr ⟨f, hf, List.mem_cons_self⟩
    exact ⟨_, List.mem_append_left _ hmem, Scalar.same_text_iff.mpr rfl⟩

/-- An object with the entries of one field stands for what is made of it. -/
theorem object_of_field (h : Made side params f n) (hf : f ∈ Field.vocabulary)
    (hne : (side.given params f).values ≠ []) : Object (.map (side.entries params f)) n := by
  have hobject := object_of_made (.cons h .nil) (List.singleton_sublist.mpr hf)
    (List.forall_mem_singleton.mpr hne) .none (List.cons_ne_nil _ _)
  rwa [Side.object, List.flatMap_singleton, List.append_nil, List.append_nil] at hobject

/-- Objects of one field each stand for what is made of the fields. -/
theorem objects_of_made {nodes : List Node} (h : List.Forall₂ (Made side params) fields nodes)
    (hknown : ∀ f ∈ fields, f ∈ Field.vocabulary)
    (hne : ∀ f ∈ fields, (side.given params f).values ≠ []) :
    Objects ((fields.map (side.entries params)).map .map) nodes := by
  induction h with
  | nil => exact .nil
  | @cons f n rest nodes hfirst hrest ih =>
    obtain ⟨hf, hknown⟩ := List.forall_mem_cons.mp hknown
    obtain ⟨hvalues, hne⟩ := List.forall_mem_cons.mp hne
    exact .cons (object_of_field hfirst hf hvalues) (ih hknown hne)

/-- The entry for what is left out stands for its negation, as a single object or as any of
    several. -/
theorem tail_ignoredEntry {nodes : List Node}
    (h : List.Forall₂ (Made .ignored params) fields nodes)
    (hknown : ∀ f ∈ fields, f ∈ Field.vocabulary)
    (hne : ∀ f ∈ fields, (Side.ignored.given params f).values ≠ []) :
    Tail (ignoredEntry (fields.map (Side.ignored.entries params))) (exclusion nodes) := by
  -- nothing is left out, or one field is, or several are
  have hobjects := objects_of_made h hknown hne
  cases h with
  | nil => exact .none
  | @cons f n rest nodes hfirst hrest =>
    cases hrest with
    | nil =>
      obtain ⟨hf, -⟩ := List.forall_mem_cons.mp hknown
      obtain ⟨hvalues, -⟩ := List.forall_mem_cons.mp hne
      exact .not (object_of_field hfirst hf hvalues)
    | cons =>
      refine .not (.mk (List.cons_ne_nil _ _) ?_
        (.node (.group .any (List.cons_ne_nil _ _) hobjects) .nil))
      -- the object has a single key, which is no modifier
      intro name hname v hget
      simp only [Record.get?, Record.find?, Scalar.same_text_iff, Scalar.text.injEq] at hget
      split at hget
      · next heq => exact absurd (heq ▸ hname) (groupKey_not_modifier .any)
      · cases hget

/-! ## Searches

What is left is to see that the document is never empty, that its tree is in normal form, and that
the names of the parameters do not matter beyond the fields. -/

/-- A branch for everything that is left out has no combination of a single part either. -/
theorem normalize_exclusion {nodes : List Node} (h : ∀ n ∈ nodes, n.normalize = n) :
    ∀ n ∈ exclusion nodes, n.normalize = n := by
  intro n hn
  unfold exclusion at hn
  split at hn
  · cases hn
  · rw [List.mem_singleton.mp hn, Node.normalize]
    exact congrArg Node.not (Node.normalize_joined .any h)

/-- No tree that is made of a parameter has a combination of a single part. -/
theorem normalize_of_made {nodes : List Node} (h : List.Forall₂ (Made side params) fields nodes) :
    ∀ n ∈ nodes, n.normalize = n := by
  intro n hn
  obtain ⟨f, -, hmade⟩ := exists_of_mem_right h n hn
  exact hmade.normalize_eq

/-- When something is given, there is a branch for it. -/
theorem branches_ne_nil {subject : Subject} (hnames : checkNames subject.scope params = .ok ())
    {positives negatives : List Node}
    (hwanted : List.Forall₂ (Made .wanted params)
      (Side.wanted.populated params Field.vocabulary) positives)
    (hignored : List.Forall₂ (Made .ignored params)
      (Side.ignored.populated params Field.vocabulary) negatives)
    (hfull : ∃ side : Side, ∃ f ∈ Field.vocabulary, (side.given params f).isPopulated = true) :
    positives ++ exclusion negatives ≠ [] := by
  obtain ⟨side, f, hf, hpopulated⟩ := hfull
  have hmem := (mem_populated hnames).mpr ⟨hf, hpopulated⟩
  intro hnil
  obtain ⟨rfl, hexclusion⟩ := List.append_eq_nil_iff.mp hnil
  -- on either side there is a tree for the field that something is given for
  cases side with
  | wanted =>
    rw [List.forall₂_nil_right_iff.mp hwanted] at hmem
    cases hmem
  | ignored =>
    unfold exclusion at hexclusion
    split at hexclusion
    · next hempty =>
      rw [List.isEmpty_iff.mp hempty] at hignored
      rw [List.forall₂_nil_right_iff.mp hignored] at hmem
      cases hmem
    · cases hexclusion

/-- The document of a search that is compiled is read as the normal form of its tree.  The tree of
    the search combines all branches; the reader leaves this combination out when there is one
    branch only. -/
theorem ofRecord_shorthand (hparams : ∀ p ∈ params, ∀ mode, p.2 ≠ .wrapped mode [])
    {subject : Subject} {root : Option Node} (h : compile subject.scope params = .ok root)
    (hfull : ∃ side : Side, ∃ f ∈ Field.vocabulary, (side.given params f).isPopulated = true) :
    ∃ n, root = some n ∧ ofRecord (shorthand params) = .ok ⟨n.normalize, []⟩ := by
  simp only [compile, bind_eq_ok_iff] at h
  obtain ⟨_, hnames, ⟨positives, negatives⟩, hparts, hroot⟩ := h
  cases hroot
  obtain ⟨hwanted, hignored⟩ := parts_made (fun _ hf => hf) hparts
  have hne (side : Side) : ∀ f ∈ side.populated params Field.vocabulary,
      (side.given params f).values ≠ [] := fun f hf =>
    values_ne_nil (given_ne_wrapped hparams) (isPopulated_of_mem_populated hf)
  have hsub (side : Side) : (side.populated params Field.vocabulary).Sublist Field.vocabulary :=
    List.filter_sublist
  -- what is left out first, since it stands behind the wanted fields as one entry
  have htail := tail_ignoredEntry hignored (fun f hf => (hsub .ignored).subset hf) (hne .ignored)
  have hbranches := branches_ne_nil hnames hwanted hignored hfull
  have hobject := object_of_made hwanted (hsub .wanted) (hne .wanted) htail hbranches
  have hnormal : ∀ n ∈ positives ++ exclusion negatives, n.normalize = n :=
    List.forall_mem_append.mpr
      ⟨normalize_of_made hwanted, normalize_exclusion (normalize_of_made hignored)⟩
  refine ⟨.all (positives ++ exclusion negatives), ?_, ?_⟩
  · -- the tree of the search is the combination of all branches, since there is one
    unfold assemble
    split
    · next hnil => exact absurd hnil hbranches
    · rfl
  · -- and every branch is in normal form already
    rw [Node.normalize, Node.normalizeEach_eq_self hnormal]
    refine ofRecord_eq_ok_iff.mpr ⟨?_, ⟨_, rfl, hobject⟩, .none⟩
    exact List.forall_mem_singleton.mpr (Or.inl rfl)

/-- Filters have no place in the document. -/
theorem shorthand_withoutFilters : shorthand (withoutFilters params) = shorthand params := by
  have hpopulated (side : Side) : side.populated (withoutFilters params) Field.vocabulary =
      side.populated params Field.vocabulary :=
    List.filter_congr fun f hf => by rw [given_withoutFilters side hf]
  have hentries (side : Side) : ∀ f ∈ side.populated params Field.vocabulary,
      side.entries (withoutFilters params) f = side.entries params f := by
    intro f hf
    rw [Side.entries, Side.entries, given_withoutFilters side (List.mem_filter.mp hf).1,
      modifiers_withoutFilters]
  simp only [shorthand, Side.object, hpopulated, List.flatMap_congr (hentries .wanted),
    List.map_congr_left (hentries .ignored)]

end Flat

/-- **Shorthand.** When something is given in an accepted search, the document in shorthand is
    accepted too, and it is read as the normal form of the tree of the search. -/
theorem parse_shorthand {subject : Subject} {params : Params} {offer : Offer} {s : Search}
    (hparams : ∀ p ∈ params, ∀ mode, p.2 ≠ .wrapped mode [])
    (h : Search.ofParams subject params offer = .ok s)
    (hfull : ∃ side : Flat.Side, ∃ f ∈ Field.vocabulary,
      (side.given params f).isPopulated = true) :
    ∃ root, s.root = some root ∧
      ParsedDocument.parse (.map (Flat.shorthand params)) = .ok ⟨root.normalize, []⟩ := by
  have hparams : ∀ p ∈ Flat.withoutFilters params, ∀ mode, p.2 ≠ .wrapped mode [] :=
    fun p hp => hparams p (List.mem_of_mem_filter hp)
  obtain ⟨side, f, hf, hpopulated⟩ := hfull
  rw [← Flat.given_withoutFilters side hf] at hpopulated
  obtain ⟨root, hroot, hread⟩ :=
    Flat.ofRecord_shorthand hparams (Search.ofParams_root h) ⟨side, f, hf, hpopulated⟩
  rw [Flat.shorthand_withoutFilters] at hread
  exact ⟨root, hroot, hread⟩

/-- Two keywords wanted in titles, any of two languages and at least five articles; two keywords to
    leave out in bodies, and a category without its subcategories. -/
def floods : Params := [
  ("keywords", .data (.list [.text "flood", .text "dam"])),
  ("keywords_loc", .data (.text "title")),
  ("lang", .wrapped .any [.data (.text "eng"), .data (.text "deu")]),
  ("min_articles_in_event", .data (.int 5)),
  ("ignore_keywords", .data (.list [.text "film", .text "game"])),
  ("ignore_keywords_loc", .data (.text "body")),
  ("ignore_category_uri", .data (.text "dmoz/Arts")),
  ("ignore_category_include_sub", .data (.bool false))]

/-- The search is accepted, and so is its document, which is spelled out here. -/
theorem parse_shorthand_floods :
    ∃ s root, Search.ofParams .events floods (.other (.data .null)) = .ok s ∧
      s.root = some root ∧
      ParsedDocument.parse (.map [(.text "$query", .map [
        (.text "keyword", .list [.text "flood", .text "dam"]), (.text "keywordLoc", .text "title"),
        (.text "lang", .map [(.text "$or", .list [.text "eng", .text "deu"])]),
        (.text "minArticlesInEvent", .int 5),
        (.text "$not", .map [(.text "$or", .list [
          .map [(.text "keyword", .map [(.text "$or", .list [.text "film", .text "game"])]),
            (.text "keywordLoc", .text "body")],
          .map [(.text "categoryUri", .text "dmoz/Arts"),
            (.text "categoryIncludeSub", .bool false)]])])])]) = .ok ⟨root.normalize, []⟩ := by
  have haccepted : (Search.ofParams .events floods (.other (.data .null))).isOk = true := by
    decide +kernel
  cases hs : Search.ofParams .events floods (.other (.data .null)) with
  | error fault =>
    rw [hs] at haccepted
    cases haccepted
  | ok s =>
    have hparams : ∀ p ∈ floods, ∀ mode, p.2 ≠ .wrapped mode [] := by
      simp [floods]
    have hkeyword : Field.several "keyword" "keywords" .token .all (some keywordLocation) ∈
        Field.vocabulary := List.mem_cons_self
    obtain ⟨root, hroot, hread⟩ := parse_shorthand hparams hs ⟨.wanted, _, hkeyword, rfl⟩
    exact ⟨s, root, rfl, hroot, hread⟩

end NewsSearch
