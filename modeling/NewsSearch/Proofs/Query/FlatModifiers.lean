import NewsSearch.Proofs.Query.Shorthand

/-!
What becomes of the modifiers of a flat search.

A condition in a compiled document stands on one of two sides: what it is about is wanted, or to be
left out.  `conditionsIn` reads the conditions off a document, each with its side, which changes
under `$not`.  It is told from the document alone and does not mention trees.

1. The conditions of a tree with their sides (`Node.sided`) are those of its document
   (`conditionsIn_document`, by induction on the tree and on lists of trees).  The conditions have
   to be atomic: the field of each is none of the keys for combinations.
2. A tree that is made of what is given for a field has one condition for each value, with the
   modifiers of its side (`Made.mem_sided`).  What is left out stands under one negation, which puts
   it on the other side (`sided_exclusion`).
3. So the conditions on a side of a compiled document are those for what is given on that side
   (`mem_conditionsIn_compiled`).
4. A modifier is checked with the first value of its field, for where something is given for a field
   there is a value (`checkModifiers_of_coerce`).  Therefore a modifier that is given with its field
   is one that the field may have.

Steps 3 and 4 together say that a modifier that is given on a side reaches the conditions of its
field there, and no others (`ModifiersReach`).

Main statement: `Flat.modifiersReach_of_compile`.
-/

namespace NewsSearch

open Flat (Side)

/-! ## Conditions with their sides

Two readings of the same thing, one of documents and one of trees.  Each is a recursion over objects
and lists of objects, or over trees and lists of trees. -/

/-- The side on which something stands when it is negated. -/
def Flat.Side.negated : Side → Side
  | .wanted => .ignored
  | .ignored => .wanted

mutual

/-- The conditions in a query object, which stands on a side, each with its own side. -/
def conditionsIn : Side → Data → List (Side × Condition)
  | _, .map [] => []
  | side, .map ((.text key, item) :: rest) =>
    if key = andKey then conditionsInParts side item
    else if key = orKey then conditionsInParts side item
    else if key = notKey then conditionsIn side.negated item
    else [(side, ⟨key, item, modifiersIn rest⟩)]
  | _, _ => []

/-- Those in the parts of a combination. -/
def conditionsInParts : Side → Data → List (Side × Condition)
  | side, .list objects => conditionsInEach side objects
  | _, _ => []

/-- Those in the objects, one after the other. -/
def conditionsInEach : Side → List Data → List (Side × Condition)
  | _, [] => []
  | side, object :: rest => conditionsIn side object ++ conditionsInEach side rest

end

namespace Node

mutual

/-- The conditions of a tree, which stands on a side, each with its own side. -/
def sided : Side → Node → List (Side × Condition)
  | side, .condition c => [(side, c)]
  | side, .all children => sidedEach side children
  | side, .any children => sidedEach side children
  | side, .not child => child.sided side.negated

/-- Those of the trees, one after the other. -/
def sidedEach : Side → List Node → List (Side × Condition)
  | _, [] => []
  | side, child :: rest => child.sided side ++ sidedEach side rest

end

/-- The conditions of several trees are those of each. -/
theorem sidedEach_eq_flatMap (side : Side) (ns : List Node) :
    sidedEach side ns = ns.flatMap (sided side) := by
  induction ns with
  | nil => rfl
  | cons n rest ih => rw [sidedEach, ih, List.flatMap_cons]

/-- Combining trees leaves their conditions where they stand, also when there is only one tree and
    no combination is made. -/
theorem sided_joined (side : Side) (mode : Mode) (ns : List Node) :
    (joined mode ns).sided side = ns.flatMap (sided side) := by
  rw [← sidedEach_eq_flatMap]
  cases mode <;> match ns with
    | [] => rfl
    | [n] => exact (List.append_nil (n.sided side)).symm
    | a :: b :: rest => rfl

end Node

/-! ## From trees to documents -/

/-- An atomic condition is read off its object: its first key is its field, and the others are its
    modifiers. -/
theorem conditionsIn_condition (side : Side) {c : Condition} (hc : c.IsAtomic) :
    conditionsIn side (.map c.document) = [(side, c)] := by
  obtain ⟨hand, hor, hnot⟩ := hc.field
  have hmodifiers : modifiersIn (c.modifiers.map fun m => (.text m.1, m.2)) = c.modifiers := by
    rw [modifiersIn, List.filterMap_map]
    exact List.filterMap_some
  rw [hc.document, conditionsIn, if_neg hand, if_neg hor, if_neg hnot, hmodifiers]

/-- The conditions of a combination are those of its parts.  A combination of one part is written as
    that part, so that the cases are by the number of parts. -/
theorem conditionsIn_combination (side : Side) (mode : Mode) {ns : List Node}
    (hparts : conditionsInEach side (Node.documents ns) = Node.sidedEach side ns) :
    conditionsIn side (.map (Node.combination mode ns).document) = Node.sidedEach side ns := by
  match ns, hparts with
  | [n], hparts =>
    -- a single part is written as itself
    rw [Node.documents, conditionsInEach, Node.documents, conditionsInEach,
      List.append_nil] at hparts
    rw [Node.document_combination_singleton, hparts]
  | [], _ => cases mode <;> rfl
  | a :: b :: rest, hparts =>
    have hne : orKey ≠ andKey := by decide
    rw [← hparts]
    cases mode with
    | all => simp only [Node.combination, Node.document, conditionsIn, conditionsInParts, if_true]
    | any =>
      simp only [Node.combination, Node.document, conditionsIn, conditionsInParts, if_neg hne,
        if_true]

mutual

/-- **The conditions in the document of a tree are those of the tree, on the same sides.** -/
theorem conditionsIn_document : ∀ (side : Side) (n : Node), (∀ c ∈ n.conditions, c.IsAtomic) →
    conditionsIn side (.map n.document) = n.sided side
  | side, .condition c, hatomic => by
    rw [Node.document, Node.sided]
    exact conditionsIn_condition side (hatomic c List.mem_cons_self)
  | side, .not child, hatomic => by
    have hchild := conditionsIn_document side.negated child hatomic
    have hand : notKey ≠ andKey := by decide
    have hor : notKey ≠ orKey := by decide
    rw [Node.document, Node.sided, conditionsIn, if_neg hand, if_neg hor, if_pos rfl, hchild]
  | side, .all children, hatomic =>
    conditionsIn_combination side .all (conditionsInEach_documents side children hatomic)
  | side, .any children, hatomic =>
    conditionsIn_combination side .any (conditionsInEach_documents side children hatomic)

/-- So are those in the documents of several trees. -/
theorem conditionsInEach_documents : ∀ (side : Side) (ns : List Node),
    (∀ c ∈ Node.conditionsOf ns, c.IsAtomic) →
      conditionsInEach side (Node.documents ns) = Node.sidedEach side ns
  | _, [], _ => rfl
  | side, n :: rest, hatomic => by
    rw [Node.conditionsOf, List.forall_mem_append] at hatomic
    have hn := conditionsIn_document side n hatomic.1
    have hrest := conditionsInEach_documents side rest hatomic.2
    rw [Node.documents, conditionsInEach, Node.sidedEach, hn, hrest]

end

/-! ## Flat searches

From here on the tree is that of a flat search, of which it is known what its branches are made of.
-/

namespace Flat

variable {side : Side} {params : Params} {f : Field}

/-- The condition is one for a value that is given for a field on a side. -/
def Side.Asks (side : Side) (params : Params) (fields : List Field) (c : Condition) : Prop :=
  ∃ f ∈ fields, (side.given params f).isPopulated = true ∧ ∃ a ∈ (side.given params f).values,
    ∃ v, f.normalizeValue a = .ok v ∧ c = side.condition params f v

/-- The conditions of a tree that is made of what is given stand where the tree stands, one for each
    value. -/
theorem Made.mem_sided {n : Node} (h : Made side params f n) {place here : Side} {c : Condition} :
    (here, c) ∈ n.sided place ↔ here = place ∧ ∃ a ∈ (side.given params f).values,
      ∃ v, f.normalizeValue a = .ok v ∧ c = side.condition params f v := by
  obtain @⟨values, sent, hgiven, -, hsends, -⟩ := h
  rw [Node.sided_joined, List.flatMap_map, List.mem_flatMap, hgiven]
  constructor
  · rintro ⟨v, hv, hmem⟩
    obtain ⟨rfl, rfl⟩ := Prod.mk.inj (List.mem_singleton.mp hmem)
    obtain ⟨s, hs, hsent⟩ := exists_of_mem_right hsends v hv
    exact ⟨rfl, _, List.mem_map_of_mem hs, v,
      Field.normalizeValue_eq_ok_iff.mpr ⟨s, rfl, hsent⟩, rfl⟩
  · rintro ⟨rfl, a, ha, v, hv, rfl⟩
    obtain ⟨s, hs, rfl⟩ := List.mem_map.mp ha
    obtain ⟨w, hw, hsent⟩ := exists_of_mem_left hsends s hs
    -- a value is sent in one form
    have hsame : v = w := by
      have hother := Field.normalizeValue_eq_ok_iff.mpr ⟨s, rfl, hsent⟩
      rw [hv] at hother
      exact Except.ok.inj hother
    exact ⟨w, hw, by rw [hsame]; exact List.mem_singleton_self _⟩

/-- So it is for all trees of a side.  There is one for each field with something in its
    parameter. -/
theorem mem_sided_of_made {fields : List Field} {nodes : List Node}
    (h : List.Forall₂ (Made side params) (side.populated params fields) nodes)
    (hpopulated : ∀ f, f ∈ side.populated params fields ↔
      f ∈ fields ∧ (side.given params f).isPopulated = true) {place here : Side} {c : Condition} :
    (here, c) ∈ nodes.flatMap (Node.sided place) ↔
      here = place ∧ side.Asks params fields c := by
  rw [List.mem_flatMap]
  constructor
  · rintro ⟨n, hn, hmem⟩
    obtain ⟨f, hf, hmade⟩ := exists_of_mem_right h n hn
    obtain ⟨rfl, hvalue⟩ := hmade.mem_sided.mp hmem
    obtain ⟨hfield, hfull⟩ := (hpopulated f).mp hf
    exact ⟨rfl, f, hfield, hfull, hvalue⟩
  · rintro ⟨rfl, f, hf, hfull, hvalue⟩
    obtain ⟨n, hn, hmade⟩ := exists_of_mem_left h f ((hpopulated f).mpr ⟨hf, hfull⟩)
    exact ⟨n, hn, hmade.mem_sided.mpr ⟨rfl, hvalue⟩⟩

/-- The negation of what is left out puts it on the other side. -/
theorem sided_exclusion (side : Side) (negatives : List Node) :
    (exclusion negatives).flatMap (Node.sided side) =
      negatives.flatMap (Node.sided side.negated) := by
  cases negatives with
  | nil => rfl
  | cons n rest =>
    have hany := Node.sided_joined side.negated .any (n :: rest)
    exact (List.append_nil _).trans hany

/-- **In a compiled document the conditions on a side are those for what is given on it.**  The
    document is that of a conjunction of what is wanted with the one negation of what is left out.
    An empty search has no tree; then nothing is given on either side. -/
theorem mem_conditionsIn_compiled {scope : Scope} {root : Option Node}
    (h : compile scope params = .ok root) (c : Condition) :
    (side, c) ∈ conditionsIn .wanted (.map ((root.map Node.document).getD [])) ↔
      side.Asks params Field.vocabulary c := by
  have hatomic := sendable_of_compile h
  simp only [compile, bind_eq_ok_iff] at h
  obtain ⟨_, hnames, ⟨positives, negatives⟩, hparts, hroot⟩ := h
  obtain ⟨hwanted, hignored⟩ := parts_made (fun _ hf => hf) hparts
  have hconditions : conditionsIn .wanted (.map ((root.map Node.document).getD [])) =
      positives.flatMap (Node.sided .wanted) ++ negatives.flatMap (Node.sided .ignored) := by
    have hbranches : (positives ++ exclusion negatives).flatMap (Node.sided .wanted) =
        positives.flatMap (Node.sided .wanted) ++ negatives.flatMap (Node.sided .ignored) := by
      rw [List.flatMap_append, sided_exclusion]
      rfl
    rw [← hbranches]
    cases hroot
    unfold assemble at hatomic ⊢
    generalize positives ++ exclusion negatives = branches at hatomic ⊢
    cases branches with
    | nil => rfl
    | cons n rest =>
      rw [← Node.sidedEach_eq_flatMap]
      exact conditionsIn_document .wanted (.all (n :: rest)) fun c hc =>
        (hatomic _ rfl c hc).isAtomic
  rw [hconditions, List.mem_append, mem_sided_of_made hwanted fun _ => mem_populated hnames,
    mem_sided_of_made hignored fun _ => mem_populated hnames]
  cases side <;> simp

/-! ## What becomes of the modifiers

It remains to follow the check of a modifier back from the compiled search. -/

/-- What is given for a modifier on a side. -/
def Side.givenModifier (side : Side) (params : Params) (modifier : String) : Argument :=
  params.getD (side.name (Side.modifierParam modifier))

/-- The modifiers of a flat search in its query.  Where something is given for the field of a
    modifier, the modifier has one of its values, and all conditions of the field on that side have
    it, of which there is one at least.  No condition has a modifier of any other kind. -/
structure ModifiersReach (params : Params) (query : Data) : Prop where
  carried : ∀ side : Side, ∀ f ∈ Field.vocabulary, ∀ modifier, f.modifier = some modifier →
    (side.given params f).isPopulated = true →
    side.givenModifier params modifier ≠ .data .null →
      ∃ d, side.givenModifier params modifier = .data d ∧ AllowedModifier modifier d ∧
        (∃ c, (side, c) ∈ conditionsIn .wanted query ∧ c.field = f.key) ∧
        ∀ c, (side, c) ∈ conditionsIn .wanted query → c.field = f.key →
          c.modifiers = [(modifier, d)]
  alone : ∀ (side : Side) (c : Condition), (side, c) ∈ conditionsIn .wanted query →
    ∀ m ∈ c.modifiers, ∃ f ∈ Field.vocabulary, c.field = f.key ∧ f.modifier = some m.1 ∧
      side.givenModifier params m.1 = .data m.2

/-- Every part of accepted parts is accepted, since compiling stops at the first that is not. -/
theorem accepted_of_parts {fields : List Field} {nodes : List Node × List Node}
    (h : parts params fields = .ok nodes) : ∀ f ∈ fields,
      (∃ part, populated params f = .ok part) ∧ ∃ part, ignored params f = .ok part := by
  induction fields generalizing nodes with
  | nil => exact fun _ hf => absurd hf List.not_mem_nil
  | cons f rest ih =>
    simp only [parts, bind_eq_ok_iff] at h
    obtain ⟨positive, hpositive, negative, hnegative, others, hrest, -⟩ := h
    exact List.forall_mem_cons.mpr ⟨⟨⟨positive, hpositive⟩, ⟨negative, hnegative⟩⟩, ih hrest⟩

/-- So is what is given for a field on a side.  A field that takes one value only has no parameter
    to leave something out. -/
theorem coerce_of_parts {fields : List Field} {nodes : List Node × List Node}
    (h : parts params fields = .ok nodes) (hf : f ∈ side.populated params fields) :
    ∃ mode? part, f.coerce (side.given params f) mode?
      (modifierFor side.modifierParams params f) = .ok part := by
  obtain ⟨hf, htaken⟩ := List.mem_filter.mp hf
  obtain ⟨hcovers, -⟩ := Bool.and_eq_true_iff.mp htaken
  obtain ⟨⟨positive, hpositive⟩, ⟨negative, hnegative⟩⟩ := accepted_of_parts h f hf
  cases side with
  | wanted => exact ⟨none, positive, hpositive⟩
  | ignored =>
    have hmulti : f.multi = true := hcovers
    rw [ignored, if_pos hmulti] at hnegative
    exact ⟨some .any, negative, hnegative⟩

/-- A tree is made of what is given for a field on a side. -/
theorem made_of_parts {nodes : List Node × List Node}
    (h : parts params Field.vocabulary = .ok nodes)
    (hf : f ∈ side.populated params Field.vocabulary) : ∃ n, Made side params f n := by
  obtain ⟨hwanted, hignored⟩ := parts_made (fun _ hf => hf) h
  cases side with
  | wanted =>
    obtain ⟨n, -, hmade⟩ := exists_of_mem_left hwanted f hf
    exact ⟨n, hmade⟩
  | ignored =>
    obtain ⟨n, -, hmade⟩ := exists_of_mem_left hignored f hf
    exact ⟨n, hmade⟩

/-- Where there is a value, a condition is made for it, and the modifiers are checked.  The three
    kinds of populated arguments all come to a first value. -/
theorem checkModifiers_of_coerce {a : Argument} {mode? : Option Mode}
    {modifiers : List (String × Argument)} {part : Option Node}
    (h : f.coerce a mode? modifiers = .ok part) (hfull : a.isPopulated = true)
    (hne : a.values ≠ []) : ∃ checked, f.checkModifiers modifiers = .ok checked := by
  have hmake {value : Argument} {c : Condition} (hc : Condition.make f value modifiers = .ok c) :
      ∃ checked, f.checkModifiers modifiers = .ok checked := by
    obtain ⟨-, -, checked, hchecked, -⟩ := Condition.make_eq_ok_iff.mp hc
    exact ⟨checked, hchecked⟩
  have hseveral {mode : Mode} (h : f.coerceSeveral mode a.values modifiers = .ok part) :
      ∃ checked, f.checkModifiers modifiers = .ok checked := by
    unfold Field.coerceSeveral at h
    split at h
    · cases h
    · obtain ⟨nodes, hnodes, -⟩ := map_eq_ok_iff.mp h
      obtain ⟨value, rest, hvalues⟩ := List.exists_cons_of_ne_nil hne
      rw [hvalues] at hnodes
      simp only [Condition.makeEach, bind_eq_ok_iff] at hnodes
      obtain ⟨c, hc, -⟩ := hnodes
      exact hmake hc
  simp only [Field.coerce, bind_eq_ok_iff] at h
  obtain ⟨v, hv, h⟩ := h
  rcases classify_cases hv with
    ⟨-, hempty⟩ | ⟨-, ⟨rfl, -⟩ | ⟨rfl, -⟩ | ⟨mode, rfl, -⟩⟩
  · rw [hempty] at hfull
    cases hfull
  · obtain ⟨c, hc, -⟩ := map_eq_ok_iff.mp h
    exact hmake hc
  · exact hseveral h
  · exact hseveral h

/-- A modifier that is checked is the one of its side, and it is data: nothing else passes the
    check. -/
theorem modifiers_of_checked (hf : f ∈ Field.vocabulary) {modifier : String}
    (hmodifier : f.modifier = some modifier) {checked : List (String × Data)}
    (h : f.checkModifiers (modifierFor side.modifierParams params f) = .ok checked)
    (hgiven : side.givenModifier params modifier ≠ .data .null) :
    ∃ d, side.givenModifier params modifier = .data d ∧
      side.modifiers params f = [(modifier, d)] := by
  obtain ⟨hsame, -⟩ := checkModifiers_modifierFor hf h
  obtain ⟨hkept, -⟩ := Field.checkModifiers_ok h
  rw [modifierFor_eq side params hf, hmodifier] at hkept
  rcases accepted_modifier hkept with ⟨hnull, -⟩ | ⟨d, hd, -, hone⟩
  · exact absurd hnull hgiven
  · exact ⟨d, hd, hsame.symm.trans hone⟩

/-- A modifier that a side gives is the one under its parameter. -/
theorem givenModifier_of_mem {m : String × Data} (h : m ∈ side.modifiers params f) :
    side.givenModifier params m.1 = .data m.2 := by
  have hown := modifier_of_mem h
  rw [Side.modifiers, hown] at h
  rw [Side.givenModifier]
  simp only at h
  split at h
  · cases h
  · next d _ hd =>
    rw [List.mem_singleton.mp h]
    rw [List.mem_singleton.mp h] at hd
    exact hd
  · cases h

/-- Fields of the same key are the same. -/
theorem eq_of_key {g : Field} (hf : f ∈ Field.vocabulary) (hg : g ∈ Field.vocabulary)
    (h : f.key = g.key) : f = g := by
  have hfound := Field.ofKey?_key f hf
  rw [h, Field.ofKey?_key g hg] at hfound
  exact (Option.some.inj hfound).symm

/-- **The modifiers of a search that is compiled reach the conditions of their fields.**  The field
    is given, so that it has a value, with which the modifier was checked; the conditions of the
    field on that side are known, and conditions on other fields have other keys. -/
theorem modifiersReach_of_compile (hparams : ∀ p ∈ params, ∀ mode, p.2 ≠ .wrapped mode [])
    {scope : Scope} {root : Option Node} (h : compile scope params = .ok root) :
    ModifiersReach params (.map ((root.map Node.document).getD [])) := by
  have hconditions {side : Side} {c : Condition} :
      (side, c) ∈ conditionsIn .wanted (.map ((root.map Node.document).getD [])) ↔
        side.Asks params Field.vocabulary c := mem_conditionsIn_compiled h c
  simp only [compile, bind_eq_ok_iff] at h
  obtain ⟨_, hnames, nodes, hparts, -⟩ := h
  constructor
  · intro side f hf modifier hmodifier hfull hgiven
    -- something is given for the field, so there is a value, and the modifier was checked with it
    have hne := values_ne_nil (given_ne_wrapped hparams) hfull
    have hmem := (mem_populated hnames).mpr ⟨hf, hfull⟩
    obtain ⟨mode?, part, hpart⟩ := coerce_of_parts hparts hmem
    obtain ⟨checked, hchecked⟩ := checkModifiers_of_coerce hpart hfull hne
    obtain ⟨d, hd, hone⟩ := modifiers_of_checked hf hmodifier hchecked hgiven
    obtain ⟨n, hmade⟩ := made_of_parts hparts hmem
    refine ⟨d, hd, hmade.allowed hne (modifier, d) (hone ▸ List.mem_singleton_self _), ?_, ?_⟩
    · obtain ⟨a, ha⟩ := List.exists_mem_of_ne_nil _ hne
      obtain ⟨v, hv⟩ := hmade.accepted a ha
      exact ⟨_, hconditions.mpr ⟨f, hf, hfull, a, ha, v, hv, rfl⟩, rfl⟩
    · intro c hc hkey
      obtain ⟨g, hg, -, a, -, v, -, rfl⟩ := hconditions.mp hc
      obtain rfl := eq_of_key hg hf hkey
      exact hone
  · intro side c hc m hm
    obtain ⟨f, hf, -, a, -, v, -, rfl⟩ := hconditions.mp hc
    exact ⟨f, hf, rfl, modifier_of_mem hm, givenModifier_of_mem hm⟩

end Flat

end NewsSearch
