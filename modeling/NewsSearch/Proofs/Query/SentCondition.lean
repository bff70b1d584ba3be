import NewsSearch.Proofs.Query.Evaluation
import NewsSearch.Proofs.Query.Vocabulary

/-!
Conditions as they are sent.

A condition that was made for a field has the field's key, a text or an integer as its value, and
the field's modifier or none (`Condition.Sendable`, `sendable_of_make`).  The same holds of one that
passes its check (`IsChecked.sendable`).

This is weaker than passing the check, and enough for everything that is written: its object has one
or two entries, the condition itself and its modifier (`Sendable.document_eq`), so it can be read
off it (`Sendable.isAtomic`).
-/

namespace NewsSearch.Condition

/-- The condition is on a field of the vocabulary, its value is a text or an integer, and it has one
    modifier that is allowed, or none. -/
structure Sendable (c : Condition) : Prop where
  known : ∃ f ∈ Field.vocabulary, c.field = f.key
  value : (∃ s, c.value = .text s) ∨ ∃ n, c.value = .int n
  modifiers : c.modifiers = [] ∨ ∃ name v, name ∈ Field.modifierNames ∧ AllowedModifier name v ∧
    c.modifiers = [(name, v)]

/-- What is sent for a field is a text or an integer. -/
theorem sent_cases {f : Field} {s : Scalar} {v : Data} (h : f.Sends s v) :
    (∃ t, v = .text t) ∨ ∃ n, v = .int n := by
  cases h with
  | text => exact Or.inl ⟨_, rfl⟩
  | count => exact Or.inr ⟨_, rfl⟩
  | date => exact Or.inl ⟨_, rfl⟩

/-- **A condition that is made with one modifier at most can be sent.** -/
theorem sendable_of_make {f : Field} (hf : f ∈ Field.vocabulary) {a : Argument}
    {given : List (String × Argument)} (hone : given.length ≤ 1) {c : Condition}
    (h : make f a given = .ok c) : c.Sendable := by
  obtain ⟨hfield, hvalue, checked, hchecked, hmodifiers⟩ := make_eq_ok_iff.mp h
  obtain ⟨hgiven, hnames⟩ := Field.checkModifiers_ok hchecked
  rw [hgiven, List.length_map] at hone
  rw [sortedByName_eq_self hone] at hmodifiers
  refine ⟨⟨f, hf, hfield⟩, ?_, ?_⟩
  · obtain ⟨s, -, hsends⟩ := Field.normalizeValue_eq_ok_iff.mp hvalue
    exact sent_cases hsends
  · match checked, hone with
    | [], _ => exact Or.inl hmodifiers
    | [(name, v)], _ =>
      rw [hgiven] at hchecked
      simp only [List.map_cons, List.map_nil, Field.checkModifiers, bind_eq_ok_iff] at hchecked
      obtain ⟨w, hw, -⟩ := hchecked
      have hallowed := ((Field.checkModifier_eq_ok_iff hf).mp hw).2.1
      have hname := Field.mem_modifierNames hf (hnames (name, v) List.mem_cons_self)
      exact Or.inr ⟨name, v, hname, hallowed, hmodifiers⟩

/-- A checked condition can be sent. -/
theorem IsChecked.sendable {c : Condition} (h : c.IsChecked) : c.Sendable := by
  obtain ⟨f, hf, hfield, ⟨s, hsends⟩, hdocument⟩ := h.document_cases
  refine ⟨⟨f, hf, hfield.symm⟩, sent_cases hsends, ?_⟩
  rcases hdocument with ⟨hnil, -⟩ | ⟨name, v, hname, hallowed, hone, -⟩
  · exact Or.inl hnil
  · exact Or.inr ⟨name, v, Field.mem_modifierNames hf hname, hallowed, hone⟩

namespace Sendable

variable {c : Condition}

/-- The object of the condition is the condition and then its modifier. -/
theorem document_eq (h : c.Sendable) :
    c.document = (.text c.field, c.value) :: c.modifiers.map fun m => (.text m.1, m.2) := by
  rcases h.modifiers with hnil | ⟨name, v, hname, -, hone⟩
  · rw [document_nil hnil, hnil]
    rfl
  · obtain ⟨f, hf, hfield⟩ := h.known
    have hne : c.field ≠ name := by
      rw [hfield]
      exact Field.key_ne_modifier hf hname
    rw [document_singleton hone hne, hone]
    rfl

/-- The condition can be read off its object: no field is called like an operator. -/
theorem isAtomic (h : c.Sendable) : c.IsAtomic := by
  obtain ⟨f, hf, hfield⟩ := h.known
  obtain ⟨-, hand, hor, hnot, -⟩ := Field.key_free f hf
  refine ⟨?_, h.document_eq⟩
  rw [hfield]
  exact ⟨hand, hor, hnot⟩

end Sendable

end NewsSearch.Condition
