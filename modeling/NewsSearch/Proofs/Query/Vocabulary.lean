import NewsSearch.Proofs.Query.CheckedCondition

/-!
What the vocabulary allows.

A field has values of one kind, and each value has one form in which it is sent; a modifier has a
few values.  This file says so without the checks, as the relations `NamesDay`, `Field.Sends` and
`AllowedModifier`, and proves that the checks accept exactly what they allow.

* A day is named by a text, a date or a moment.  Which texts name a day, and which day, is up to the
  reader of moments; it is asked only for texts that begin with a full calendar date
  (`dateText_eq_ok_iff`).
* A token or a URI is a text that is not blank, a count an integer that is not negative
  (`Field.normalizeValue_eq_ok_iff`).
* A modifier belongs to its field and has one of its values (`Field.checkModifier_eq_ok_iff`).

In each case one direction goes through the tests of the check, and the other through the rules of
the relation.

Together they say what a condition that passes its check is written as
(`Condition.IsChecked.document_cases`).
-/

namespace NewsSearch

open Calendar Text

/-! ## Values

The rules of the vocabulary for values, and the checks that keep to them. -/

/-- A scalar names a day, which is sent as the given text. -/
inductive NamesDay [MomentReader] : Scalar → String → Prop
  /-- A text that is a full calendar date, perhaps with a time, apart from blanks around it. -/
  | text {s : String} {m : Moment} (full : isCalendarDate (strip s).toList = true)
      (reads : readMoment? (strip s) = some m) : NamesDay (.text s) m.date.wire
  | date (d : Date) : NamesDay (.date d) d.wire
  | moment (m : Moment) : NamesDay (.moment m) m.date.wire

/-- A scalar is a value of the field, which is sent in the given form. -/
inductive Field.Sends [MomentReader] (f : Field) : Scalar → Data → Prop
  /-- A token or a URI is a text, sent without the blanks around it; something must be left. -/
  | text {s : String} (kind : f.kind = .token ∨ f.kind = .uri) (rest : strip s ≠ "") :
      f.Sends (.text s) (.text (strip s))
  /-- A count is an integer that is not negative. -/
  | count {n : Int} (kind : f.kind = .count) (natural : 0 ≤ n) : f.Sends (.int n) (.int n)
  | date {s : Scalar} {day : String} (kind : f.kind = .date) (names : NamesDay s day) :
      f.Sends s (.text day)

/-- A full calendar date is not empty. -/
theorem ne_empty_of_isCalendarDate {s : String} (h : isCalendarDate s.toList = true) : s ≠ "" := by
  rintro rfl
  cases h

/-- **Days are recognized as the vocabulary says**, with any reader of moments. -/
theorem dateText_eq_ok_iff [MomentReader] {a : Argument} {day : String} :
    dateText a = .ok day ↔ ∃ s, a = .data (.scalar s) ∧ NamesDay s day := by
  constructor
  · intro h
    unfold dateText at h
    split at h
    · next m => cases h; exact ⟨_, rfl, .moment m⟩
    · next d => cases h; exact ⟨_, rfl, .date d⟩
    · next s =>
      simp only [] at h
      split at h
      · cases h
      · split at h
        · next hfull =>
          split at h
          · next m hreads => cases h; exact ⟨_, rfl, .text hfull hreads⟩
          · cases h
        · cases h
    · cases h
  · rintro ⟨s, rfl, hnames⟩
    cases hnames with
    | date d => rfl
    | moment m => rfl
    | @text s m hfull hreads =>
      have hne : (strip s).isEmpty = false := by
        simpa using ne_empty_of_isCalendarDate hfull
      simp only [dateText, hne, hfull, hreads, if_true, Bool.false_eq_true, if_false]

namespace Field

/-- **A value is accepted exactly when it is one of the field**, and then becomes the form in which
    it is sent. -/
theorem normalizeValue_eq_ok_iff [MomentReader] {f : Field} {a : Argument} {v : Data} :
    f.normalizeValue a = .ok v ↔ ∃ s, a = .data (.scalar s) ∧ f.Sends s v := by
  constructor
  · intro h
    unfold normalizeValue at h
    split at h
    · next hkind =>
      rw [mapError_eq_ok_iff, map_eq_ok_iff] at h
      obtain ⟨day, hday, rfl⟩ := h
      obtain ⟨s, hs, hnames⟩ := dateText_eq_ok_iff.mp hday
      exact ⟨s, hs, .date hkind hnames⟩
    · next hkind =>
      split at h
      · next n =>
        split at h
        · cases h
        · next hnatural => cases h; exact ⟨_, rfl, .count hkind (by omega)⟩
      · cases h
    -- tokens and URIs
    all_goals
      next hkind =>
      split at h
      · next s =>
        simp only [] at h
        split at h
        · cases h
        · next hrest =>
          cases h
          refine ⟨_, rfl, .text (by simp [hkind]) ?_⟩
          simpa using hrest
      · cases h
  · rintro ⟨s, rfl, hsends⟩
    cases hsends with
    | date hkind hnames =>
      have hday := dateText_eq_ok_iff.mpr ⟨s, rfl, hnames⟩
      simp only [normalizeValue, hkind, hday]
      rfl
    | count hkind hnatural =>
      rw [normalizeValue, hkind]
      exact if_neg (by omega)
    | @text s hkind hrest =>
      have hne : (strip s).isEmpty = false := by simpa using hrest
      rcases hkind with hkind | hkind
      · simp only [normalizeValue, hkind, hne, Bool.false_eq_true, if_false]
      · simp only [normalizeValue, hkind, hne, Bool.false_eq_true, if_false]

end Field

/-! ## Modifiers

There are two modifiers, one with a few words for values and one with truth values. -/

/-- The values that the two modifiers may have. -/
inductive AllowedModifier : String → Data → Prop
  | location {s : String} (known : s ∈ keywordLocations) : AllowedModifier keywordLocation (.text s)
  | subcategories (b : Bool) : AllowedModifier includeSubcategories (.bool b)

namespace Field

/-- The modifier of a field is one of two. -/
theorem modifier_eq {f : Field} (hf : f ∈ vocabulary) {name : String}
    (hname : f.modifier = some name) : name = keywordLocation ∨ name = includeSubcategories := by
  have hall : ∀ f ∈ vocabulary, f.modifier = none ∨ f.modifier = some keywordLocation ∨
      f.modifier = some includeSubcategories := by decide
  rcases hall f hf with h | h | h
  · rw [h] at hname; cases hname
  · rw [h] at hname; exact Or.inl (Option.some.inj hname).symm
  · rw [h] at hname; exact Or.inr (Option.some.inj hname).symm

/-- **A modifier is accepted for its own field and with one of its values, which is kept.** -/
theorem checkModifier_eq_ok_iff {f : Field} (hf : f ∈ vocabulary) {name : String} {d v : Data} :
    f.checkModifier name (.data d) = .ok v ↔
      f.modifier = some name ∧ AllowedModifier name d ∧ v = d := by
  have hne : includeSubcategories ≠ keywordLocation := by decide
  constructor
  · intro h
    obtain ⟨hname, hkept⟩ := checkModifier_ok h
    cases hkept
    refine ⟨hname, ?_, rfl⟩
    have hown : ¬ f.modifier ≠ some name := fun hne => hne hname
    unfold checkModifier at h
    rw [if_neg hown] at h
    rcases modifier_eq hf hname with rfl | rfl
    · rw [if_pos rfl] at h
      split at h
      · cases h
      · split at h
        · next s heq =>
          split at h
          · next hknown =>
            cases heq
            exact .location (by simpa using hknown)
          · cases h
        · cases h
    · rw [if_neg hne] at h
      split at h
      · next b heq => cases heq; exact .subcategories b
      · cases h
  · rintro ⟨hname, hallowed, rfl⟩
    cases hallowed with
    | location hknown => simp [checkModifier, hname, hknown, Argument.unhashable?, Data.unhashable?]
    | subcategories b => simp [checkModifier, hname, hne]

end Field

/-! ## Checked conditions -/

namespace Condition

/-- The modifier of a checked condition is allowed. -/
theorem allowedModifier_of_make [MomentReader] {c : Condition} {f : Field}
    (hf : f ∈ Field.vocabulary) (hmake : make f (.data c.value) c.givenModifiers = .ok c)
    {name : String} {v : Data} (hone : c.modifiers = [(name, v)]) : AllowedModifier name v := by
  obtain ⟨-, -, checked, hchecked, -⟩ := make_eq_ok_iff.mp hmake
  simp only [givenModifiers, hone, List.map_cons, Field.checkModifiers,
    bind_eq_ok_iff] at hchecked
  obtain ⟨w, hw, -⟩ := hchecked
  exact ((Field.checkModifier_eq_ok_iff hf).mp hw).2.1

/-- What a checked condition is written as: its field with a value that is sent for it, and perhaps
    the modifier of the field with an allowed value. -/
theorem IsChecked.document_cases [MomentReader] {c : Condition} (hc : c.IsChecked) :
    ∃ f ∈ Field.vocabulary, f.key = c.field ∧ (∃ s, f.Sends s c.value) ∧
      (c.modifiers = [] ∧ c.document = [(.text c.field, c.value)] ∨
       ∃ name v, f.modifier = some name ∧ AllowedModifier name v ∧ c.modifiers = [(name, v)] ∧
        c.document = [(.text c.field, c.value), (.text name, v)]) := by
  obtain ⟨nodup, f, hkey, hmake⟩ := hc
  obtain ⟨hf, hfield⟩ := Field.mem_vocabulary_of_ofKey? hkey
  obtain ⟨-, hnormal, -⟩ := make_eq_ok_iff.mp hmake
  obtain ⟨s, -, hsends⟩ := Field.normalizeValue_eq_ok_iff.mp hnormal
  refine ⟨f, hf, hfield, ⟨s, hsends⟩, ?_⟩
  rcases IsChecked.modifiers_cases nodup hmake with hnil | ⟨name, v, hname, hone⟩
  · exact Or.inl ⟨hnil, document_nil hnil⟩
  · have hne : c.field ≠ name :=
      hfield ▸ Field.key_ne_modifier hf (Field.mem_modifierNames hf hname)
    exact Or.inr ⟨name, v, hname, allowedModifier_of_make hf hmake hone, hone,
      document_singleton hone hne⟩

end Condition

end NewsSearch
