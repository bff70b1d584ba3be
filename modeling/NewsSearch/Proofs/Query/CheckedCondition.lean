import NewsSearch.Proofs.Accepted
import NewsSearch.Query.Document

/-!
Conditions that pass the check of the vocabulary.

`Condition.make` checks the modifiers and the value of a condition.  This file says what is known of
a condition that it made (`make_eq_ok_iff`).

* Its field is one of the vocabulary, and none of these is written under an operator or a modifier
  (`Field.key_free`).
* Its value is a scalar (`Field.normalizeValue_scalar`).
* Its modifiers are those that were given, each of them the modifier of the field
  (`Field.checkModifiers_ok`); checking changes none, and sorting puts nothing in another order when
  there is at most one.

`Condition.IsChecked` is the property that the round trip of query documents asks of every
condition: made again from its own value and its own modifiers, it is the same condition.  Since a
field has at most one modifier, such a condition has at most one (`IsChecked.modifiers_cases`).

Nothing here depends on which texts are read as dates.
-/

namespace NewsSearch

open Calendar

/-! ## The vocabulary

Facts about the table of fields, by going through it. -/

namespace Field

/-- No field is written under an operator or under a modifier. -/
theorem key_free : ∀ f ∈ vocabulary,
    f.key ∉ modifierNames ∧ f.key ≠ andKey ∧ f.key ≠ orKey ∧ f.key ≠ notKey ∧
      f.key.toList.head? ≠ some '$' := by
  decide

/-- The modifier of a field is one of the vocabulary. -/
theorem mem_modifierNames {f : Field} {name : String} (hf : f ∈ vocabulary)
    (hname : f.modifier = some name) : name ∈ modifierNames :=
  List.mem_filterMap.mpr ⟨f, hf, hname⟩

/-- A field is not written under a modifier. -/
theorem key_ne_modifier {f : Field} {name : String} (hf : f ∈ vocabulary)
    (hname : name ∈ modifierNames) : f.key ≠ name := by
  intro heq
  subst heq
  exact (key_free f hf).1 hname

/-! ## What the checks establish -/

/-- A value that is sent for a field is a scalar. -/
theorem normalizeValue_scalar [MomentReader] {f : Field} {a : Argument} {v : Data}
    (h : f.normalizeValue a = .ok v) : ∃ s : Scalar, v = .scalar s := by
  unfold normalizeValue at h
  split at h
  · rw [mapError_eq_ok_iff, map_eq_ok_iff] at h
    obtain ⟨t, -, rfl⟩ := h
    exact ⟨.text t, rfl⟩
  · split at h
    · next n =>
      split at h
      · cases h
      · cases h; exact ⟨.int n, rfl⟩
    · cases h
  -- tokens and URIs
  all_goals
    split at h
    · next t =>
      simp only [] at h
      split at h
      · cases h
      · cases h; exact ⟨.text (Text.strip t), rfl⟩
    · cases h

/-- A modifier that is accepted belongs to the field and is kept as it was given. -/
theorem checkModifier_ok {f : Field} {name : String} {a : Argument} {v : Data}
    (h : f.checkModifier name a = .ok v) : f.modifier = some name ∧ a = .data v := by
  unfold checkModifier at h
  split at h
  · cases h
  · next hname =>
    refine ⟨Decidable.not_not.mp hname, ?_⟩
    split at h
    · -- the parts of an article in which keywords are searched
      split at h
      · cases h
      · split at h
        · split at h
          · cases h; rfl
          · cases h
        · cases h
    · split at h
      · cases h; rfl
      · cases h

/-- Modifiers that are accepted all belong to the field and are kept as they were given. -/
theorem checkModifiers_ok {f : Field} {given : List (String × Argument)}
    {checked : List (String × Data)} (h : f.checkModifiers given = .ok checked) :
    given = checked.map (fun m => (m.1, Argument.data m.2)) ∧
      ∀ m ∈ checked, f.modifier = some m.1 := by
  induction given generalizing checked with
  | nil =>
    cases h
    exact ⟨rfl, fun m hm => absurd hm List.not_mem_nil⟩
  | cons entry rest ih =>
    obtain ⟨name, a⟩ := entry
    simp only [checkModifiers, bind_eq_ok_iff] at h
    obtain ⟨v, hv, others, hothers, hchecked⟩ := h
    cases hchecked
    obtain ⟨hname, rfl⟩ := checkModifier_ok hv
    obtain ⟨hrest, hnames⟩ := ih hothers
    refine ⟨by rw [hrest]; rfl, fun m hm => ?_⟩
    rcases List.mem_cons.mp hm with hm | hm
    · rw [hm]; exact hname
    · exact hnames m hm

end Field

namespace Condition

/-- **A condition is made for a field when its value and its modifiers pass their checks**, and
    holds what the checks give. -/
theorem make_eq_ok_iff [MomentReader] {f : Field} {a : Argument} {given : List (String × Argument)}
    {c : Condition} :
    make f a given = .ok c ↔
      c.field = f.key ∧ f.normalizeValue a = .ok c.value ∧
        ∃ checked, f.checkModifiers given = .ok checked ∧ c.modifiers = sortedByName checked := by
  simp only [make, bind_eq_ok_iff]
  constructor
  · rintro ⟨checked, hchecked, sent, hsent, hc⟩
    cases hc
    exact ⟨rfl, hsent, checked, hchecked, rfl⟩
  · rintro ⟨hfield, hvalue, checked, hchecked, hmodifiers⟩
    exact ⟨checked, hchecked, c.value, hvalue, by rw [← hfield, ← hmodifiers]⟩

/-- Pairs of one name are in the order of their names. -/
theorem sortedByName_of_same {pairs : List (String × Data)}
    (h : ∀ m ∈ pairs, ∀ n ∈ pairs, m.1 = n.1) : sortedByName pairs = pairs := by
  refine List.mergeSort_of_pairwise (List.pairwise_of_forall_mem_list fun m hm n hn => ?_)
  exact decide_eq_true (h m hm n hn ▸ String.le_refl m.1)

/-- One modifier is in order. -/
theorem sortedByName_eq_self {pairs : List (String × Data)} (h : pairs.length ≤ 1) :
    sortedByName pairs = pairs := by
  refine sortedByName_of_same fun m hm n hn => ?_
  match pairs, h with
  | [p], _ => rw [List.mem_singleton.mp hm, List.mem_singleton.mp hn]

/-! ## The written form -/

/-- A condition without modifiers is an object of one key. -/
theorem document_nil {c : Condition} (hnil : c.modifiers = []) :
    c.document = [(.text c.field, c.value)] := by
  rw [Condition.document, hnil]
  rfl

/-- With one modifier it is an object of two keys, which are different. -/
theorem document_singleton {c : Condition} {name : String} {v : Data}
    (hone : c.modifiers = [(name, v)]) (hne : c.field ≠ name) :
    c.document = [(.text c.field, c.value), (.text name, v)] := by
  rw [Condition.document, hone]
  simp [Record.set, Record.insert, hne]

/-! ## Conditions that the check leaves as they are

A condition can be made from its own parts, as reading a document does. -/

/-- The modifiers of a condition as they are given to make one. -/
def givenModifiers (c : Condition) : List (String × Argument) :=
  c.modifiers.map fun m => (m.1, .data m.2)

/-- The condition passes the check of its field unchanged: its modifiers are a mapping, and the
    condition made from its value and its modifiers is the condition itself. -/
def IsChecked [MomentReader] (c : Condition) : Prop :=
  (c.modifiers.map (·.1)).Nodup ∧
    ∃ f, Field.ofKey? c.field = some f ∧ make f (.data c.value) c.givenModifiers = .ok c

/-- A condition passes its check unchanged when its value and its only modifier, if it has one,
    do. -/
theorem isChecked_of [MomentReader] {c : Condition} {f : Field}
    (hfield : Field.ofKey? c.field = some f)
    (hvalue : f.normalizeValue (.data c.value) = .ok c.value)
    (hmodifiers : f.checkModifiers c.givenModifiers = .ok c.modifiers)
    (hone : c.modifiers.length ≤ 1) : c.IsChecked := by
  refine ⟨?_, f, hfield, make_eq_ok_iff.mpr ⟨?_, hvalue, c.modifiers, hmodifiers, ?_⟩⟩
  · match c.modifiers, hone with
    | [], _ => exact List.nodup_nil
    | [m], _ => simp
  · exact (Field.mem_vocabulary_of_ofKey? hfield).2.symm
  · exact (sortedByName_eq_self hone).symm

/-- Names that are all the same and none of them twice are at most one. -/
theorem at_most_one {α β : Type} {pairs : List (α × β)} {name : α}
    (nodup : (pairs.map (·.1)).Nodup) (same : ∀ m ∈ pairs, m.1 = name) :
    pairs = [] ∨ ∃ v, pairs = [(name, v)] := by
  match pairs with
  | [] => exact Or.inl rfl
  | [(n, v)] =>
    have hn : n = name := same (n, v) List.mem_cons_self
    exact Or.inr ⟨v, by rw [hn]⟩
  | (n, v) :: (m, w) :: rest =>
    have hn : n = name := same (n, v) List.mem_cons_self
    have hm : m = name := same (m, w) (List.mem_cons_of_mem _ List.mem_cons_self)
    simp [hn, hm] at nodup

/-- A condition that passes its check has no modifier, or the modifier of its field alone: all of
    its modifiers have the name that the field allows, and no name stands there twice. -/
theorem IsChecked.modifiers_cases [MomentReader] {c : Condition} {f : Field}
    (nodup : (c.modifiers.map (·.1)).Nodup)
    (hmake : make f (.data c.value) c.givenModifiers = .ok c) :
    c.modifiers = [] ∨ ∃ name v, f.modifier = some name ∧ c.modifiers = [(name, v)] := by
  obtain ⟨-, -, checked, hchecked, -⟩ := make_eq_ok_iff.mp hmake
  obtain ⟨hgiven, hnames⟩ := Field.checkModifiers_ok hchecked
  have hkept : c.modifiers = checked := by
    refine (List.map_inj_right ?_).mp hgiven
    rintro ⟨n, v⟩ ⟨m, w⟩ heq
    simpa using heq
  cases hmodifier : f.modifier with
  | none =>
    refine Or.inl (List.eq_nil_iff_forall_not_mem.mpr fun m hm => ?_)
    have hm' := hnames m (hkept ▸ hm)
    rw [hmodifier] at hm'
    cases hm'
  | some name =>
    have hsame : ∀ m ∈ c.modifiers, m.1 = name := by
      intro m hm
      have hm' := hnames m (hkept ▸ hm)
      rw [hmodifier] at hm'
      exact (Option.some.inj hm').symm
    rcases at_most_one nodup hsame with hnil | ⟨v, hone⟩
    · exact Or.inl hnil
    · exact Or.inr ⟨name, v, rfl, hone⟩

end Condition

/-- A combination of a single part is written as that part. -/
theorem Node.document_combination_singleton (mode : Mode) (n : Node) :
    (Node.combination mode [n]).document = n.document := by
  cases mode with
  | all => exact Node.document_all_singleton n
  | any => exact Node.document_any_singleton n

end NewsSearch
