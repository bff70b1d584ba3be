import Mathlib.Data.List.Forall2
import NewsSearch.Proofs.Query.SentCondition
import NewsSearch.Query.Flat

/-!
What a parameter of a flat search means.

A flat search has two sides: what is wanted, and what is left out.  On each side a field has a
parameter for its values and perhaps one for its modifier.  `Side.holds` says when a parameter
holds, from the parameters alone: all or any of its values must, and a value holds when the
condition with that value and with the modifier of its side does.  `Matches` says when a whole
search does.  Neither mentions a tree.

The second half is about the trees that are made.

1. What is given is nothing, one value, several values, or a wrapper around several
   (`classify_cases`).  A single value is treated like a list of it alone, so that from here on
   there is one case.
2. The modifier that is looked up for a field is the one under the parameter of its side
   (`modifierFor_eq`).  It is kept as it is given, and there is one at most
   (`checkModifiers_modifierFor`), so that nothing has to be put in order.
3. Every value of the parameter is one of the field and becomes a condition with that modifier,
   which can be sent (`makeEach_modifierFor`, by induction on the values).
4. The conditions are joined as the parameter says.  So what is given becomes nothing or a tree that
   is made of it (`Made`, `coerce_cases`).
5. Such a tree `Stands` for the meaning of the parameter: it holds when the parameter does, because
   a value holds as its condition does, and its conditions can be sent.

Main statements: `coerce_cases`, `Made.stands`.
-/

namespace NewsSearch

/-! ## Lists with corresponding elements -/

section Corresponding

variable {α β γ : Type} {R : α → β → Prop} {as : List α} {bs : List β}

/-- An element of the first list has its partner in the second. -/
theorem exists_of_mem_left (h : List.Forall₂ R as bs) : ∀ a ∈ as, ∃ b ∈ bs, R a b := by
  induction h with
  | nil => exact fun _ ha => absurd ha List.not_mem_nil
  | cons hfirst _ ih =>
    refine List.forall_mem_cons.mpr ⟨⟨_, List.mem_cons_self, hfirst⟩, fun a ha => ?_⟩
    obtain ⟨b, hb, hR⟩ := ih a ha
    exact ⟨b, List.mem_cons_of_mem _ hb, hR⟩

/-- An element of the second list has its partner in the first. -/
theorem exists_of_mem_right (h : List.Forall₂ R as bs) : ∀ b ∈ bs, ∃ a ∈ as, R a b :=
  exists_of_mem_left h.flip

/-- What is the same of corresponding elements is the same of the lists. -/
theorem map_eq_map_of_forall₂ {f : α → γ} {g : β → γ} (h : List.Forall₂ R as bs)
    (hsame : ∀ a b, R a b → f a = g b) : as.map f = bs.map g := by
  rw [← List.forall₂_eq_eq_eq, List.forall₂_map_left_iff, List.forall₂_map_right_iff]
  exact h.imp hsame

end Corresponding

/-! ## What is given under a parameter

These read an argument without classifying it: whether there is something, which values there are,
and how they combine. -/

namespace Argument

/-- Whether anything is given: not nothing, a blank text, an empty list or an empty tuple. -/
def isPopulated : Argument → Bool
  | data .null => false
  | data (.text s) => !Text.isBlankText s
  | data (.list ds) => !ds.isEmpty
  | data (.tuple ds) => !ds.isEmpty
  | list as => !as.isEmpty
  | tuple as => !as.isEmpty
  | _ => true

/-- The values given: those of a wrapper, the items of a list or a tuple, or the argument alone. -/
def values : Argument → List Argument
  | wrapped _ vs => vs
  | a => a.items?.getD [a]

/-- How the values combine: as the wrapper says, and otherwise in the standard way. -/
def modeOr (standard : Mode) : Argument → Mode
  | wrapped mode _ => mode
  | _ => standard

end Argument

namespace Flat

/-- The sides of a flat search. -/
inductive Side where
  | wanted
  | ignored

namespace Side

/-- The name on a side for what is called `param` on the side of what is wanted. -/
def name (side : Side) (param : String) : String :=
  match side with
  | wanted => param
  | ignored => "ignore_" ++ param

/-- How plain lists combine: as the field says, and any one is enough to leave something out. -/
def standardMode (side : Side) (f : Field) : Mode :=
  match side with
  | wanted => f.defaultMode
  | ignored => .any

/-- The parameter for a modifier on the side of what is wanted. -/
def modifierParam (modifier : String) : String :=
  if modifier = keywordLocation then "keywords_loc" else "category_include_sub"

/-- The modifiers that the conditions on a field have on a side: its own if the parameter of that
    side gives it. -/
def modifiers (side : Side) (params : Params) (f : Field) : List (String × Data) :=
  match f.modifier with
  | none => []
  | some modifier =>
    match params.getD (side.name (modifierParam modifier)) with
    | .data .null => []
    | .data d => [(modifier, d)]
    | _ => []

/-- What is given for a field on a side. -/
def given (side : Side) (params : Params) (f : Field) : Argument :=
  params.getD (side.name f.param)

/-- Whether a value given for a field holds: the condition with this value as it is sent, and with
    the modifiers of the side, does. -/
def valueHolds (side : Side) (params : Params) (truth : Truth) (f : Field) (a : Argument) : Bool :=
  match f.normalizeValue a with
  | .ok value => truth ⟨f.key, value, side.modifiers params f⟩
  | .error _ => false

/-- Whether what is given for a field on a side holds: all of its values or any of them do. -/
def holds (side : Side) (params : Params) (truth : Truth) (f : Field) : Bool :=
  let a := side.given params f
  (a.modeOr (side.standardMode f)).combine (a.values.map (side.valueHolds params truth f))

end Side

/-- What a flat search means: every populated parameter holds, and no populated one to leave out
    does.  A parameter with nothing in it says nothing, on either side. -/
structure Matches (params : Params) (truth : Truth) : Prop where
  wanted : ∀ f ∈ Field.vocabulary, (Side.wanted.given params f).isPopulated = true →
    Side.wanted.holds params truth f = true
  ignored : ∀ f ∈ Field.vocabulary, (Side.ignored.given params f).isPopulated = true →
    Side.ignored.holds params truth f = false

/-! ## Values -/

/-- **What a populated or an unpopulated argument is classified as.**  An argument without anything
    in it is absent.  Otherwise it is a single value, several values that leave the mode to the
    field, or several in the mode of their wrapper; and the values are in each case those that are
    read from the argument without classifying it. -/
theorem classify_cases {a : Argument} {v : FieldValue} (h : classify a = .ok v) :
    (v = .absent ∧ a.isPopulated = false) ∨
    (a.isPopulated = true ∧
      ((v = .single a ∧ a.values = [a]) ∨
       (v = .several a.values ∧ ∀ standard, a.modeOr standard = standard) ∨
       (∃ mode, v = .wrapped mode a.values ∧ ∀ standard, a.modeOr standard = mode))) := by
  -- a list or a tuple is absent when it is empty, whether it is plain data or not
  cases a with
  | wrapped mode vs => cases h; exact Or.inr ⟨rfl, Or.inr (Or.inr ⟨mode, rfl, fun _ => rfl⟩)⟩
  | node n => cases h
  | map es => cases h; exact Or.inr ⟨rfl, Or.inl ⟨rfl, rfl⟩⟩
  | list as =>
    cases as with
    | nil => cases h; exact Or.inl ⟨rfl, rfl⟩
    | cons x xs => cases h; exact Or.inr ⟨rfl, Or.inr (Or.inl ⟨rfl, fun _ => rfl⟩)⟩
  | tuple as =>
    cases as with
    | nil => cases h; exact Or.inl ⟨rfl, rfl⟩
    | cons x xs => cases h; exact Or.inr ⟨rfl, Or.inr (Or.inl ⟨rfl, fun _ => rfl⟩)⟩
  | data d =>
    cases d with
    | map es => cases h; exact Or.inr ⟨rfl, Or.inl ⟨rfl, rfl⟩⟩
    | list ds =>
      cases ds with
      | nil => cases h; exact Or.inl ⟨rfl, rfl⟩
      | cons x xs => cases h; exact Or.inr ⟨rfl, Or.inr (Or.inl ⟨rfl, fun _ => rfl⟩)⟩
    | tuple ds =>
      cases ds with
      | nil => cases h; exact Or.inl ⟨rfl, rfl⟩
      | cons x xs => cases h; exact Or.inr ⟨rfl, Or.inr (Or.inl ⟨rfl, fun _ => rfl⟩)⟩
    | scalar x =>
      cases x with
      | null => cases h; exact Or.inl ⟨rfl, rfl⟩
      | text s =>
        simp only [classify, Except.ok.injEq] at h
        cases hblank : Text.isBlankText s with
        | true => exact Or.inl ⟨by rw [← h, hblank]; rfl, by simp [Argument.isPopulated, hblank]⟩
        | false =>
          refine Or.inr ⟨by simp [Argument.isPopulated, hblank], Or.inl ⟨?_, rfl⟩⟩
          rw [← h, hblank]
          rfl
      | _ => cases h; exact Or.inr ⟨rfl, Or.inl ⟨rfl, rfl⟩⟩

/-- What is populated has a value, unless it is a wrapper without one: a wrapper counts as populated
    whatever it holds. -/
theorem values_ne_nil {a : Argument} (ha : ∀ mode, a ≠ .wrapped mode [])
    (hfull : a.isPopulated = true) : a.values ≠ [] := by
  cases a with
  | wrapped mode values =>
    rintro rfl
    exact ha mode rfl
  | data d =>
    cases d with
    | scalar s => exact List.cons_ne_nil _ _
    | map entries => exact List.cons_ne_nil _ _
    | list items => simpa [Argument.isPopulated, Argument.values, Argument.items?] using hfull
    | tuple items => simpa [Argument.isPopulated, Argument.values, Argument.items?] using hfull
  | list items => simpa [Argument.isPopulated, Argument.values, Argument.items?] using hfull
  | tuple items => simpa [Argument.isPopulated, Argument.values, Argument.items?] using hfull
  | map entries => exact List.cons_ne_nil _ _
  | node n => exact List.cons_ne_nil _ _

/-- No side is given a wrapper without a value when there is none among the parameters. -/
theorem given_ne_wrapped {side : Side} {params : Params} {f : Field}
    (hparams : ∀ p ∈ params, ∀ mode, p.2 ≠ .wrapped mode []) :
    ∀ mode, side.given params f ≠ .wrapped mode [] := by
  rw [Side.given, Params.getD]
  cases hfound : params.lookup (side.name f.param) with
  | none => exact fun _ h => nomatch h
  | some a =>
    obtain ⟨before, after, hsplit, -⟩ := List.lookup_eq_some_iff.mp hfound
    exact hparams (side.name f.param, a) (by simp [hsplit])

/-! ## Conditions -/

/-- The parameters that set modifiers on a side. -/
def Side.modifierParams : Side → List (String × String)
  | .wanted => Flat.modifierParams
  | .ignored => ignoredModifierParams

/-- A field has no modifier, or one of the two that have a parameter. -/
theorem modifier_cases : ∀ f ∈ Field.vocabulary,
    f.modifier = none ∨ f.modifier = some keywordLocation ∨
      f.modifier = some includeSubcategories := by
  decide

/-- The modifier that is looked up for a field is the one under the parameter of its side, and none
    is looked up for a field without modifiers. -/
theorem modifierFor_eq (side : Side) (params : Params) {f : Field} (hf : f ∈ Field.vocabulary) :
    modifierFor side.modifierParams params f =
      match f.modifier with
      | none => []
      | some modifier =>
        if (params.getD (side.name (Side.modifierParam modifier))).isNull then []
        else [(modifier, params.getD (side.name (Side.modifierParam modifier)))] := by
  have hne : keywordLocation ≠ includeSubcategories := by decide
  rcases modifier_cases f hf with h | h | h
  · cases side <;> simp [modifierFor, Side.modifierParams, Flat.modifierParams,
      ignoredModifierParams, h]
  · cases side <;> simp [modifierFor, Side.modifierParams, Flat.modifierParams,
      ignoredModifierParams, h, Side.modifierParam, Side.name]
  · cases side <;> simp [modifierFor, Side.modifierParams, Flat.modifierParams,
      ignoredModifierParams, h, hne.symm, Side.modifierParam, Side.name]

/-- Only nothing is null. -/
theorem isNull_iff {a : Argument} : a.isNull = true ↔ a = .data .null := by
  constructor
  · intro h
    unfold Argument.isNull at h
    split at h
    · rfl
    · cases h
  · intro h
    rw [h]
    rfl

/-- A modifier that may be null is accepted as data: either nothing was given and nothing is kept,
    or a value was given and is kept as it is. -/
theorem accepted_modifier {a : Argument} {name : String} {checked : List (String × Data)}
    (h : (if a.isNull then [] else [(name, a)]) = checked.map fun m => (m.1, .data m.2)) :
    (a = .data .null ∧ checked = []) ∨ ∃ d, a = .data d ∧ d ≠ .null ∧ checked = [(name, d)] := by
  cases hnull : a.isNull with
  | true =>
    rw [hnull] at h
    exact Or.inl ⟨isNull_iff.mp hnull, List.map_eq_nil_iff.mp h.symm⟩
  | false =>
    rw [hnull] at h
    match checked with
    | [] => cases h
    | [m] =>
      obtain ⟨hname, ha⟩ := Prod.mk.inj (List.cons.inj h).1
      refine Or.inr ⟨m.2, ha, ?_, by rw [hname]⟩
      intro hd
      rw [ha, hd] at hnull
      cases hnull
    | m :: n :: rest => exact nomatch (List.cons.inj h).2

/-- A modifier that is accepted is kept as the modifier of its side, and there is one at most. -/
theorem checkModifiers_modifierFor {side : Side} {params : Params} {f : Field}
    (hf : f ∈ Field.vocabulary) {checked : List (String × Data)}
    (h : f.checkModifiers (modifierFor side.modifierParams params f) = .ok checked) :
    checked = side.modifiers params f ∧ checked.length ≤ 1 := by
  obtain ⟨hgiven, -⟩ := Field.checkModifiers_ok h
  rw [modifierFor_eq side params hf] at hgiven
  unfold Side.modifiers
  cases hmodifier : f.modifier with
  | none =>
    rw [hmodifier] at hgiven
    rw [List.map_eq_nil_iff.mp hgiven.symm]
    exact ⟨rfl, Nat.zero_le 1⟩
  | some modifier =>
    rw [hmodifier] at hgiven
    rcases accepted_modifier hgiven with ⟨hnull, hnil⟩ | ⟨d, hd, hne, hone⟩
    · rw [hnil]
      exact ⟨by simp only [hnull], Nat.zero_le 1⟩
    · rw [hone]
      exact ⟨by simp only [hd], Nat.le_refl 1⟩

/-- A field is given one modifier at most. -/
theorem length_modifierFor_le (side : Side) (params : Params) {f : Field}
    (hf : f ∈ Field.vocabulary) : (modifierFor side.modifierParams params f).length ≤ 1 := by
  rw [modifierFor_eq side params hf]
  split
  · exact Nat.zero_le 1
  · split
    · exact Nat.zero_le 1
    · exact Nat.le_refl 1

/-- A condition that is made for a value on a side has the modifiers of that side, and it can be
    sent.  There is one modifier at most, so that sorting them by name changes nothing. -/
theorem make_modifierFor {side : Side} {params : Params} {f : Field} (hf : f ∈ Field.vocabulary)
    {a : Argument} {c : Condition}
    (h : Condition.make f a (modifierFor side.modifierParams params f) = .ok c) :
    f.normalizeValue a = .ok c.value ∧ c = ⟨f.key, c.value, side.modifiers params f⟩ ∧
      c.Sendable := by
  obtain ⟨hfield, hvalue, checked, hchecked, hmodifiers⟩ := Condition.make_eq_ok_iff.mp h
  obtain ⟨hkept, hone⟩ := checkModifiers_modifierFor hf hchecked
  rw [Condition.sortedByName_eq_self hone] at hmodifiers
  refine ⟨hvalue, ?_, Condition.sendable_of_make hf (length_modifierFor_le side params hf) h⟩
  rw [← hfield, ← hkept, ← hmodifiers]

/-! ## One parameter -/

variable {side : Side} {params : Params} {f : Field}

/-- The condition that a field has a value as it is sent, with the modifiers of a side. -/
def Side.condition (side : Side) (params : Params) (f : Field) (v : Data) : Condition :=
  ⟨f.key, v, side.modifiers params f⟩

/-- The tree is made of what is given for a field on a side: every value is one of the field and
    becomes a condition that can be sent, and the conditions are joined as the parameter says.
    Several values need a field that takes several. -/
inductive Made (side : Side) (params : Params) (f : Field) : Node → Prop
  | mk {values : List Scalar} {sent : List Data}
      (given : (side.given params f).values = values.map fun s => .data (.scalar s))
      (several : 1 < values.length → f.multi = true) (sends : List.Forall₂ f.Sends values sent)
      (sendable : ∀ v ∈ sent, (side.condition params f v).Sendable) :
      Made side params f (.joined ((side.given params f).modeOr (side.standardMode f))
        (sent.map fun v => .condition (side.condition params f v)))

/-- The conditions made for values are those of the side, one for each value in its order. -/
theorem makeEach_modifierFor (hf : f ∈ Field.vocabulary) {as : List Argument} {nodes : List Node}
    (h : Condition.makeEach f (modifierFor side.modifierParams params f) as = .ok nodes) :
    ∃ values sent, as = values.map (fun s => .data (.scalar s)) ∧
      List.Forall₂ f.Sends values sent ∧ (∀ v ∈ sent, (side.condition params f v).Sendable) ∧
      nodes = sent.map fun v => .condition (side.condition params f v) := by
  induction as generalizing nodes with
  | nil =>
    cases h
    exact ⟨[], [], rfl, .nil, fun _ hv => absurd hv List.not_mem_nil, rfl⟩
  | cons a rest ih =>
    simp only [Condition.makeEach, bind_eq_ok_iff] at h
    obtain ⟨c, hc, others, hothers, hnodes⟩ := h
    cases hnodes
    obtain ⟨hvalue, hsame, hsendable⟩ := make_modifierFor hf hc
    obtain ⟨s, rfl, hsends⟩ := Field.normalizeValue_eq_ok_iff.mp hvalue
    obtain ⟨values, sent, rfl, hrest, hsendables, rfl⟩ := ih hothers
    refine ⟨s :: values, c.value :: sent, rfl, .cons hsends hrest, ?_, ?_⟩
    · exact List.forall_mem_cons.mpr ⟨hsame ▸ hsendable, hsendables⟩
    · rw [List.map_cons, Side.condition, ← hsame]

/-- So are several values joined in the mode of a parameter.  If they are accepted at all, there is
    a tree. -/
theorem made_of_coerceSeveral (hf : f ∈ Field.vocabulary) {part : Option Node}
    (h : f.coerceSeveral ((side.given params f).modeOr (side.standardMode f))
      (side.given params f).values (modifierFor side.modifierParams params f) = .ok part) :
    ∃ n, part = some n ∧ Made side params f n := by
  unfold Field.coerceSeveral at h
  split at h
  · cases h
  · next hseveral =>
    rw [map_eq_ok_iff] at h
    obtain ⟨nodes, hnodes, hpart⟩ := h
    obtain ⟨values, sent, hgiven, hsends, hsendable, rfl⟩ := makeEach_modifierFor hf hnodes
    refine ⟨_, hpart.symm, .mk hgiven ?_ hsends hsendable⟩
    intro hlength
    rw [hgiven, List.length_map] at hseveral
    simpa [hlength] using hseveral

/-- **What is given for a field on a side becomes nothing when it is not populated, and otherwise a
    tree that is made of it.** -/
theorem coerce_cases (hf : f ∈ Field.vocabulary) {mode? : Option Mode}
    (hmode : mode?.getD f.defaultMode = side.standardMode f) {part : Option Node}
    (h : f.coerce (side.given params f) mode? (modifierFor side.modifierParams params f) =
      .ok part) :
    (part = none ∧ (side.given params f).isPopulated = false) ∨
    ((side.given params f).isPopulated = true ∧ ∃ n, part = some n ∧ Made side params f n) := by
  simp only [Field.coerce, bind_eq_ok_iff] at h
  obtain ⟨v, hv, h⟩ := h
  rcases classify_cases hv with
    ⟨rfl, hempty⟩ | ⟨hfull, ⟨rfl, hone⟩ | ⟨rfl, hstandard⟩ | ⟨mode, rfl, hwrapped⟩⟩
  · cases h
    exact Or.inl ⟨rfl, hempty⟩
  · -- a single value is like a list of it alone
    refine Or.inr ⟨hfull, made_of_coerceSeveral hf ?_⟩
    simp only [map_eq_ok_iff] at h
    obtain ⟨c, hc, hpart⟩ := h
    have hsingle : ∀ mode, Node.joined mode [.condition c] = .condition c := by
      intro mode
      cases mode <;> rfl
    rw [hone, Field.coerceSeveral, Condition.makeEach, hc, ← hpart]
    simp [Condition.makeEach, hsingle, Except.map, bind, Except.bind]
  · refine Or.inr ⟨hfull, made_of_coerceSeveral hf ?_⟩
    rw [hstandard, ← hmode]
    exact h
  · refine Or.inr ⟨hfull, made_of_coerceSeveral hf ?_⟩
    rw [hwrapped]
    exact h

/-! ## What trees that are made mean

Both halves meet here: the meaning is told from the parameters, the tree is made by the compiler. -/

/-- A tree stands for what is said about conditions, and its conditions can be sent. -/
structure Stands (n : Node) (meaning : Truth → Bool) : Prop where
  holds : ∀ truth, n.holds truth = meaning truth
  sendable : ∀ c ∈ n.conditions, c.Sendable

/-- A value of a field holds as the condition with what is sent for it does, since both take the
    value as the field normalises it. -/
theorem valueHolds_of_sends {s : Scalar} {v : Data} (h : f.Sends s v) (truth : Truth) :
    side.valueHolds params truth f (.data (.scalar s)) = truth (side.condition params f v) := by
  rw [Side.valueHolds, Field.normalizeValue_eq_ok_iff.mpr ⟨s, rfl, h⟩]
  rfl

/-- Every value of a parameter from which a tree was made is one that the field accepts. -/
theorem Made.accepted {n : Node} (h : Made side params f n) :
    ∀ a ∈ (side.given params f).values, ∃ sent, f.normalizeValue a = .ok sent := by
  obtain ⟨hgiven, -, hsends, -⟩ := h
  rw [hgiven, List.forall_mem_map]
  intro s hs
  obtain ⟨v, -, hv⟩ := exists_of_mem_left hsends s hs
  exact ⟨v, Field.normalizeValue_eq_ok_iff.mpr ⟨s, rfl, hv⟩⟩

/-- **A tree that is made of what is given stands for it.**  The values of the parameter and what is
    sent for them correspond one by one, and so do the truth values that are combined on both
    sides. -/
theorem Made.stands {n : Node} (h : Made side params f n) : Stands n (side.holds params · f) := by
  obtain ⟨hgiven, -, hsends, hsendable⟩ := h
  constructor
  · intro truth
    rw [Node.holds_joined, Side.holds, hgiven, List.map_map, List.map_map]
    exact congrArg _ (map_eq_map_of_forall₂ hsends fun _ _ h => valueHolds_of_sends h truth).symm
  · rw [Node.conditions_joined, Node.conditionsOf_eq_flatMap, List.flatMap_map]
    intro c hc
    obtain ⟨v, hv, hc⟩ := List.mem_flatMap.mp hc
    rw [List.mem_singleton.mp hc]
    exact hsendable v hv

end Flat

end NewsSearch
