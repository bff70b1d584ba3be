import NewsSearch.Proofs.Query.DocumentReading
import NewsSearch.Proofs.Query.FlatParameter
import NewsSearch.Query.Search

/-!
What flat searches mean.

A flat search is a list of parameters.  It asks that all of some fields hold and none of some
others, where each field has its values and its own way to combine them (`Flat.Matches`).  What is
sent for it is a document, which is made in two steps: the parameters are compiled to a tree, and
the tree is written as an object.  The meaning of the document is that of the query language, which
knows nothing of parameters.  This file shows that both mean the same.

1. For one field and one side the tree that is made stands for what is given (`Made.stands`, shown
   with the parameters).  For all fields of a side this goes by induction over the fields
   (`parts_made`).  A field for which nothing is given, or that a side does not take, adds no tree
   (`made_skip`), and every other one adds one tree (`made_cons`).
2. So the trees of a side hold together when all that is given on it does, and one of them holds
   when something does (`SideStands.all_eq`, `SideStands.any_eq`).
3. The document of the whole search combines the wanted trees with one negation for all that is
   ignored (`evaluate_assemble`).  When nothing is given there is no tree, and the empty object
   holds.
4. What is left concerns names.  The tree is about the fields that a side takes, the meaning about
   all of them; but a field that a side does not take has a name that is not allowed on it, so
   nothing is given for it in an accepted search (`mem_populated`).  And filters are no fields, so
   it makes no difference that they are taken out before the search is compiled
   (`matches_withoutFilters`).

Main statement: `evaluate_search`.
-/

namespace NewsSearch

namespace Flat

variable {side : Side} {params : Params} {f : Field}

/-! ## All parameters

The fields are gone through in the order of the vocabulary, and for each of them both sides are
read.  The induction keeps the two lists of trees apart. -/

/-- Whether a side takes a field at all: only fields of several values can be left out. -/
def Side.covers (side : Side) (f : Field) : Bool :=
  match side with
  | .wanted => true
  | .ignored => f.multi

/-- The fields for which something is given on a side. -/
def Side.populated (side : Side) (params : Params) (fields : List Field) : List Field :=
  fields.filter fun f => side.covers f && (side.given params f).isPopulated

/-- For each of them something is given. -/
theorem isPopulated_of_mem_populated {fields : List Field} (h : f ∈ side.populated params fields) :
    (side.given params f).isPopulated = true :=
  (Bool.and_eq_true_iff.mp (List.mem_filter.mp h).2).2

/-- **Trees stand for a side**, one by one and in order, for what is given for fields on it.  Their
    conditions can be sent, and every value that is given has been accepted. -/
structure SideStands (side : Side) (params : Params) (fields : List Field) (nodes : List Node) :
    Prop where
  holds : ∀ truth, nodes.map (Node.holds truth) =
    (side.populated params fields).map (side.holds params truth)
  sendable : ∀ c ∈ Node.conditionsOf nodes, c.Sendable
  accepted : ∀ f ∈ side.populated params fields, ∀ a ∈ (side.given params f).values,
    ∃ sent, f.normalizeValue a = .ok sent

variable {fields : List Field} {nodes : List Node}

/-- A field for which nothing is given, or that the side does not take, adds nothing. -/
theorem made_skip (h : List.Forall₂ (Made side params) (side.populated params fields) nodes)
    (hf : (side.covers f && (side.given params f).isPopulated) = false) :
    List.Forall₂ (Made side params) (side.populated params (f :: fields)) nodes := by
  have hsame : side.populated params (f :: fields) = side.populated params fields :=
    List.filter_cons_of_neg (by rw [hf]; exact Bool.false_ne_true)
  rw [hsame]
  exact h

/-- A field that the side takes adds the tree of what is given for it. -/
theorem made_cons (h : List.Forall₂ (Made side params) (side.populated params fields) nodes)
    (hf : f ∈ Field.vocabulary) (hcovers : side.covers f = true) {mode? : Option Mode}
    (hmode : mode?.getD f.defaultMode = side.standardMode f) {part : Option Node}
    (hpart : f.coerce (side.given params f) mode? (modifierFor side.modifierParams params f) =
      .ok part) :
    List.Forall₂ (Made side params) (side.populated params (f :: fields))
      (part.toList ++ nodes) := by
  -- either nothing is given, or there is one tree made of it
  rcases coerce_cases hf hmode hpart with ⟨rfl, hempty⟩ | ⟨hfull, n, rfl, hmade⟩
  · exact made_skip h (by rw [hempty, Bool.and_false])
  · have hmore : side.populated params (f :: fields) = f :: side.populated params fields :=
      List.filter_cons_of_pos (by rw [hcovers, hfull]; rfl)
    rw [hmore]
    exact .cons hmade h

/-- **The parts of fields** are made of what is given for them on both sides. -/
theorem parts_made (hfields : ∀ f ∈ fields, f ∈ Field.vocabulary)
    {positives negatives : List Node} (h : parts params fields = .ok (positives, negatives)) :
    List.Forall₂ (Made .wanted params) (Side.wanted.populated params fields) positives ∧
      List.Forall₂ (Made .ignored params) (Side.ignored.populated params fields) negatives := by
  induction fields generalizing positives negatives with
  | nil =>
    cases h
    exact ⟨.nil, .nil⟩
  | cons f rest ih =>
    simp only [parts, bind_eq_ok_iff] at h
    obtain ⟨positive, hpositive, negative, hnegative, ⟨others, more⟩, hrest, hparts⟩ := h
    cases hparts
    have hf := hfields f List.mem_cons_self
    obtain ⟨hwanted, hignored⟩ := ih (fun g hg => hfields g (List.mem_cons_of_mem f hg)) hrest
    constructor
    · -- every field has a wanted part
      exact made_cons hwanted hf rfl rfl hpositive
    · -- a field of a single value has no ignored part
      unfold ignored at hnegative
      cases hmulti : f.multi with
      | true =>
        rw [hmulti, if_pos rfl] at hnegative
        exact made_cons hignored hf hmulti rfl hnegative
      | false =>
        rw [hmulti] at hnegative
        cases hnegative
        exact made_skip hignored (by rw [Side.covers, hmulti, Bool.false_and])

/-- Trees that are made of what is given stand for it. -/
theorem sideStands_of_made
    (h : List.Forall₂ (Made side params) (side.populated params fields) nodes) :
    SideStands side params fields nodes := by
  constructor
  · -- each tree holds when what is given for its field does
    intro truth
    exact (map_eq_map_of_forall₂ h fun f n hmade => (hmade.stands.holds truth).symm).symm
  · -- a condition comes from one of the trees
    rw [Node.conditionsOf_eq_flatMap]
    intro c hc
    obtain ⟨n, hn, hc⟩ := List.mem_flatMap.mp hc
    obtain ⟨f, -, hmade⟩ := exists_of_mem_right h n hn
    exact hmade.stands.sendable c hc
  · intro f hf
    obtain ⟨n, -, hmade⟩ := exists_of_mem_left h f hf
    exact hmade.accepted

/-- So do the parts of fields, on both sides. -/
theorem parts_stand (hfields : ∀ f ∈ fields, f ∈ Field.vocabulary)
    {positives negatives : List Node} (h : parts params fields = .ok (positives, negatives)) :
    SideStands .wanted params fields positives ∧ SideStands .ignored params fields negatives :=
  (parts_made hfields h).imp sideStands_of_made sideStands_of_made

/-- All trees of a side hold when all that is given on it does. -/
theorem SideStands.all_eq (h : SideStands side params fields nodes) (truth : Truth) :
    nodes.all (Node.holds truth) =
      (side.populated params fields).all (side.holds params truth) := by
  have hmap := congrArg (List.all · id) (h.holds truth)
  simpa only [List.all_map, Function.id_comp] using hmap

/-- And any of them holds when any of it does. -/
theorem SideStands.any_eq (h : SideStands side params fields nodes) (truth : Truth) :
    nodes.any (Node.holds truth) =
      (side.populated params fields).any (side.holds params truth) := by
  have hmap := congrArg (List.any · id) (h.holds truth)
  simpa only [List.any_map, Function.id_comp] using hmap

/-- The negation of the ignored parts has their conditions. -/
theorem conditionsOf_exclusion (negatives : List Node) :
    Node.conditionsOf (exclusion negatives) = Node.conditionsOf negatives := by
  cases negatives with
  | nil => rfl
  | cons n rest =>
    have hany := Node.conditions_joined .any (n :: rest)
    exact (List.append_nil _).trans hany

/-- It holds when none of them does; without ignored parts there is no negation. -/
theorem all_exclusion (truth : Truth) (negatives : List Node) :
    (exclusion negatives).all (Node.holds truth) = !negatives.any (Node.holds truth) := by
  cases negatives with
  | nil => rfl
  | cons n rest =>
    have hany : (Node.anyOf (n :: rest)).holds truth = (n :: rest).any (Node.holds truth) := by
      have hjoined := Node.holds_joined truth .any (n :: rest)
      rw [Mode.combine, List.any_map] at hjoined
      exact hjoined
    -- the negation is a single node, and a list of one holds when its element does
    rw [← hany]
    exact Bool.and_true _

/-- The conditions of all parts, and of the negation, are those of the parts. -/
theorem forall_conditionsOf_parts {P : Condition → Prop} {positives negatives : List Node}
    (hpositive : ∀ c ∈ Node.conditionsOf positives, P c)
    (hnegative : ∀ c ∈ Node.conditionsOf negatives, P c) :
    ∀ c ∈ Node.conditionsOf (positives ++ exclusion negatives), P c := by
  rw [Node.conditionsOf_eq_flatMap, List.flatMap_append, ← Node.conditionsOf_eq_flatMap,
    ← Node.conditionsOf_eq_flatMap, conditionsOf_exclusion]
  exact List.forall_mem_append.mpr ⟨hpositive, hnegative⟩

/-- **The document of all parts** holds when every populated one does and no ignored one does. -/
theorem evaluate_assemble (truth : Truth) {positives negatives : List Node}
    (hpositive : ∀ c ∈ Node.conditionsOf positives, c.IsAtomic)
    (hnegative : ∀ c ∈ Node.conditionsOf negatives, c.IsAtomic) :
    evaluate truth (.map (((assemble positives negatives).map Node.document).getD [])) =
      (positives.all (Node.holds truth) && !negatives.any (Node.holds truth)) := by
  have hatomic := forall_conditionsOf_parts hpositive hnegative
  rw [← all_exclusion, ← List.all_append]
  unfold assemble
  split
  · next hnone =>
    -- nothing is given, and the empty object is true
    rw [hnone]
    rfl
  · -- the document of one conjunction of all parts, the negation among them
    have hroot := evaluate_document truth (.all (positives ++ exclusion negatives)) hatomic
    rw [Node.holds, Node.holdsEach_eq_map, Mode.combine, List.all_map] at hroot
    exact hroot

/-! ## Names

Which names a search allows depends on what it is for.  The lemmas are about any scope. -/

/-- Names are accepted when the scope allows every one of them. -/
theorem checkNames_eq_ok_iff {scope : Scope} :
    checkNames scope params = .ok () ↔ ∀ entry ∈ params, entry.1 ∈ allowedNames scope := by
  -- names are refused when some are left after those that are allowed
  have hunknown : ((params.map (·.1)).filter fun name => !(allowedNames scope).contains name) = [] ↔
      ∀ entry ∈ params, entry.1 ∈ allowedNames scope := by
    rw [List.filter_eq_nil_iff, List.forall_mem_map]
    simp
  rw [← hunknown, checkNames]
  simp only [List.isEmpty_iff]
  split
  · next hnone => exact iff_of_true rfl hnone
  · next hsome => exact iff_of_false (fun h => nomatch h) hsome

/-- What a search does not allow is not given. -/
theorem getD_of_not_allowed {scope : Scope} (h : checkNames scope params = .ok ()) {name : String}
    (hname : name ∉ allowedNames scope) : params.getD name = .data .null := by
  have hlookup : params.lookup name = none := by
    rw [List.lookup_eq_none_iff]
    intro entry hentry
    have hne : name ≠ entry.1 := by
      rintro rfl
      exact hname (checkNames_eq_ok_iff.mp h entry hentry)
    simpa using hne
  rw [Params.getD, hlookup]
  rfl

/-- A single value cannot be left out, whatever the search is for. -/
theorem ignored_not_allowed : ∀ scope : Scope, ∀ f ∈ Field.vocabulary, f.multi = false →
    Side.ignored.name f.param ∉ allowedNames scope
  | ⟨true, true⟩ | ⟨true, false⟩ | ⟨false, true⟩ | ⟨false, false⟩ => by decide

/-- Among accepted names, a side takes every field for which something is given on it. -/
theorem mem_populated {scope : Scope} (h : checkNames scope params = .ok ()) :
    f ∈ side.populated params Field.vocabulary ↔
      f ∈ Field.vocabulary ∧ (side.given params f).isPopulated = true := by
  -- a side that does not take the field does not allow its name either
  have hcovers (hf : f ∈ Field.vocabulary) (hfull : (side.given params f).isPopulated = true) :
      side.covers f = true := by
    cases side with
    | wanted => rfl
    | ignored =>
      cases hmulti : f.multi with
      | true => exact hmulti
      | false =>
        have hnothing := getD_of_not_allowed h (ignored_not_allowed scope f hf hmulti)
        rw [Side.given, hnothing] at hfull
        cases hfull
  rw [Side.populated, List.mem_filter, Bool.and_eq_true]
  constructor
  · rintro ⟨hf, -, hfull⟩
    exact ⟨hf, hfull⟩
  · rintro ⟨hf, hfull⟩
    exact ⟨hf, hcovers hf hfull, hfull⟩

/-- **No tree.**  There is a tree exactly when something is given for a field, on one side or the
    other. -/
theorem compile_eq_none_iff {scope : Scope} {root : Option Node}
    (h : compile scope params = .ok root) :
    root = none ↔
      ∀ side : Side, ∀ f ∈ Field.vocabulary, (side.given params f).isPopulated = false := by
  simp only [compile, bind_eq_ok_iff] at h
  obtain ⟨_, hnames, ⟨positives, negatives⟩, hparts, hroot⟩ := h
  obtain ⟨hwanted, hignored⟩ := parts_made (fun _ hf => hf) hparts
  -- a side has no parts when nothing is given on it
  have hside {side : Side} {nodes : List Node}
      (hmade : List.Forall₂ (Made side params) (side.populated params Field.vocabulary) nodes) :
      nodes = [] ↔ ∀ f ∈ Field.vocabulary, (side.given params f).isPopulated = false := by
    rw [← List.length_eq_zero_iff, ← hmade.length_eq, List.length_eq_zero_iff,
      List.eq_nil_iff_forall_not_mem]
    simp only [mem_populated hnames, not_and, Bool.not_eq_true]
  -- there is no tree when there are no parts on either side
  have hnone : root = none ↔ positives = [] ∧ negatives = [] := by
    cases hroot
    cases positives <;> cases negatives <;> simp [assemble, exclusion]
  rw [hnone, hside hwanted, hside hignored]
  constructor
  · rintro ⟨hpositive, hnegative⟩ (_ | _)
    · exact hpositive
    · exact hnegative
  · exact fun hall => ⟨hall .wanted, hall .ignored⟩

/-- What is given under a name does not depend on parameters of other names. -/
theorem getD_filter (keep : String × Argument → Bool) (params : Params) {name : String}
    (hkeep : ∀ a, keep (name, a) = true) :
    Params.getD name (params.filter keep) = Params.getD name params := by
  have hlookup : (params.filter keep).lookup name = params.lookup name := by
    induction params with
    | nil => rfl
    | cons entry rest ih =>
      obtain ⟨n, a⟩ := entry
      -- the entry that is found first is kept, and one of another name is passed over in both
      rcases Decidable.em (name = n) with heq | hne
      · subst heq
        rw [List.filter_cons_of_pos (hkeep a), List.lookup_cons_self, List.lookup_cons_self]
      · have hbeq : (name == n) = false := by simpa using hne
        rw [List.lookup_cons, hbeq, List.filter_cons]
        split
        · rw [List.lookup_cons, hbeq]
          exact ih
        · exact ih
  rw [Params.getD, Params.getD, hlookup]

/-! ## Searches

An accepted search compiles its parameters without the filters.  It remains to put the meaning of
these together with that of all parameters. -/

/-- A search that is compiled has a tree that stands for its parameters, and each of their values
    has been accepted. -/
theorem compile_stands {subject : Subject} {root : Option Node}
    (h : compile subject.scope params = .ok root) :
    (∀ truth, evaluate truth (.map ((root.map Node.document).getD [])) = true ↔
      Matches params truth) ∧
      ∀ side : Side, ∀ f ∈ Field.vocabulary, (side.given params f).isPopulated = true →
        ∀ a ∈ (side.given params f).values, ∃ sent, f.normalizeValue a = .ok sent := by
  simp only [compile, bind_eq_ok_iff] at h
  obtain ⟨_, hnames, ⟨positives, negatives⟩, hparts, hroot⟩ := h
  cases hroot
  obtain ⟨hwanted, hignored⟩ := parts_stand (fun _ hf => hf) hparts
  constructor
  · -- the document is about the fields that the sides take, the meaning about all of them
    intro truth
    rw [evaluate_assemble truth (fun c hc => (hwanted.sendable c hc).isAtomic)
      (fun c hc => (hignored.sendable c hc).isAtomic), hwanted.all_eq, hignored.any_eq,
      Bool.and_eq_true, Bool.not_eq_true', List.all_eq_true, List.any_eq_false]
    constructor
    · rintro ⟨hpositive, hnegative⟩
      constructor
      · intro f hf hfull
        exact hpositive f ((mem_populated hnames).mpr ⟨hf, hfull⟩)
      · intro f hf hfull
        exact Bool.eq_false_iff.mpr (hnegative f ((mem_populated hnames).mpr ⟨hf, hfull⟩))
    · intro hmatches
      constructor
      · intro f hf
        obtain ⟨hf, hfull⟩ := (mem_populated hnames).mp hf
        exact hmatches.wanted f hf hfull
      · intro f hf
        obtain ⟨hf, hfull⟩ := (mem_populated hnames).mp hf
        exact Bool.eq_false_iff.mp (hmatches.ignored f hf hfull)
  · -- a value is accepted when its parameter is taken by the side, as all that are given are
    intro side f hf hfull
    have hmem := (mem_populated hnames).mpr ⟨hf, hfull⟩
    cases side with
    | wanted => exact hwanted.accepted f hmem
    | ignored => exact hignored.accepted f hmem

/-- The conditions of a tree that is compiled can be sent. -/
theorem sendable_of_compile {scope : Scope} {root : Option Node}
    (h : compile scope params = .ok root) : ∀ n ∈ root, ∀ c ∈ n.conditions, c.Sendable := by
  simp only [compile, bind_eq_ok_iff] at h
  obtain ⟨_, -, ⟨positives, negatives⟩, hparts, hroot⟩ := h
  cases hroot
  obtain ⟨hwanted, hignored⟩ := parts_stand (fun _ hf => hf) hparts
  have hall := forall_conditionsOf_parts hwanted.sendable hignored.sendable
  intro n hn
  unfold assemble at hn
  split at hn
  · cases hn
  · cases hn
    exact hall

/-- No parameter of a field has the name of a filter. -/
theorem not_filter (side : Side) : ∀ f ∈ Field.vocabulary,
    Filters.params.lookup (side.name f.param) = none := by
  cases side <;> decide

/-- Nor has a parameter for a modifier. -/
theorem modifierParam_not_filter (side : Side) (modifier : String) :
    Filters.params.lookup (side.name (Side.modifierParam modifier)) = none := by
  unfold Side.modifierParam
  split <;> cases side <;> decide

/-- The parameters that are no filters. -/
def withoutFilters (params : Params) : Params :=
  params.filter fun entry => !(Filters.params.lookup entry.1).isSome

/-- The filters among the parameters do not matter to what a field is given. -/
theorem given_withoutFilters (side : Side) (hf : f ∈ Field.vocabulary) :
    side.given (withoutFilters params) f = side.given params f := by
  apply getD_filter
  intro a
  rw [not_filter side f hf]
  rfl

/-- Nor do they matter to its modifiers. -/
theorem modifiers_withoutFilters (side : Side) (f : Field) :
    side.modifiers (withoutFilters params) f = side.modifiers params f := by
  unfold Side.modifiers
  cases f.modifier with
  | none => rfl
  | some modifier =>
    have hsame : Params.getD (side.name (Side.modifierParam modifier)) (withoutFilters params) =
        Params.getD (side.name (Side.modifierParam modifier)) params := by
      apply getD_filter
      intro a
      rw [modifierParam_not_filter]
      rfl
    simp only [hsame]

/-- Nor do they matter to whether it holds. -/
theorem holds_withoutFilters (side : Side) (truth : Truth) (hf : f ∈ Field.vocabulary) :
    side.holds (withoutFilters params) truth f = side.holds params truth f := by
  have hvalue : side.valueHolds (withoutFilters params) truth f =
      side.valueHolds params truth f := by
    funext a
    rw [Side.valueHolds, Side.valueHolds, modifiers_withoutFilters]
  rw [Side.holds, Side.holds, given_withoutFilters side hf, hvalue]

/-- Parameters that give the same and hold alike mean the same. -/
theorem Matches.congr {others : Params} {truth : Truth} (h : Matches params truth)
    (hgiven : ∀ side : Side, ∀ f ∈ Field.vocabulary, side.given others f = side.given params f)
    (hholds : ∀ side : Side, ∀ f ∈ Field.vocabulary,
      side.holds others truth f = side.holds params truth f) : Matches others truth := by
  constructor
  · intro f hf hfull
    rw [hgiven .wanted f hf] at hfull
    rw [hholds .wanted f hf]
    exact h.wanted f hf hfull
  · intro f hf hfull
    rw [hgiven .ignored f hf] at hfull
    rw [hholds .ignored f hf]
    exact h.ignored f hf hfull

/-- So the search means the same without them. -/
theorem matches_withoutFilters (truth : Truth) :
    Matches (withoutFilters params) truth ↔ Matches params truth := by
  constructor
  · intro h
    exact h.congr (fun side f hf => (given_withoutFilters side hf).symm)
      (fun side f hf => (holds_withoutFilters side truth hf).symm)
  · intro h
    exact h.congr (fun side f hf => given_withoutFilters side hf)
      (fun side f hf => holds_withoutFilters side truth hf)

end Flat

/-- The tree of an accepted search is compiled from its parameters. -/
theorem Search.ofParams_root {subject : Subject} {params : Params} {offer : Offer} {s : Search}
    (h : Search.ofParams subject params offer = .ok s) :
    Flat.compile subject.scope (Flat.withoutFilters params) = .ok s.root := by
  simp only [Search.ofParams, check_eq_ok_iff, bind_eq_ok_iff] at h
  obtain ⟨-, -, -, filters, -, root, hroot, wanted, -, hs⟩ := h
  cases hs
  exact hroot

/-- **What a flat search means.**  Whether the document of an accepted flat search holds is what its
    parameters say: all populated ones must hold and no ignored one.  And every value that they give
    has its condition. -/
theorem evaluate_search {subject : Subject} {params : Params} {offer : Offer} {s : Search}
    (h : Search.ofParams subject params offer = .ok s) :
    ∃ query, s.document.get? queryKey = some query ∧
      (∀ truth, evaluate truth query = true ↔ Flat.Matches params truth) ∧
      ∀ side : Flat.Side, ∀ f ∈ Field.vocabulary, (side.given params f).isPopulated = true →
        ∀ a ∈ (side.given params f).values, ∃ sent, f.normalizeValue a = .ok sent := by
  obtain ⟨hmeans, hvalues⟩ := Flat.compile_stands (Search.ofParams_root h)
  refine ⟨_, ParsedDocument.get?_compiled_query s.root s.filters.document, ?_, ?_⟩
  · intro truth
    rw [hmeans truth]
    exact Flat.matches_withoutFilters truth
  · intro side f hf hfull
    have hsame : side.given (Flat.withoutFilters params) f = side.given params f :=
      Flat.given_withoutFilters side hf
    rw [← hsame] at hfull ⊢
    exact hvalues side f hf hfull

/-- Two keywords wanted in titles and two to leave out in bodies, any of two languages, a source to
    leave out, and a filter. -/
def solarPanels : Params := [
  ("keywords", .data (.list [.text "solar", .text " panel "])),
  ("keywords_loc", .data (.text "title")),
  ("lang", .wrapped .any [.data (.text "eng"), .data (.text "deu")]),
  ("ignore_keywords", .data (.list [.text "recall", .text "hail"])),
  ("ignore_keywords_loc", .data (.text "body")),
  ("ignore_source_uri", .data (.text "ads.example")),
  ("event_filter", .data (.text "keepAll"))]

/-- The search is accepted.  Where its document holds, so do both keywords in titles, and no keyword
    to leave out does in bodies. -/
theorem evaluate_search_both_sides :
    ∃ s, Search.ofParams .articles solarPanels (.other (.data .null)) = .ok s ∧
      ∃ query, s.document.get? queryKey = some query ∧
        ∀ truth : Truth, evaluate truth query = true →
          truth ⟨"keyword", .text "solar", [(keywordLocation, .text "title")]⟩ = true ∧
          truth ⟨"keyword", .text "panel", [(keywordLocation, .text "title")]⟩ = true ∧
          truth ⟨"keyword", .text "recall", [(keywordLocation, .text "body")]⟩ = false ∧
          truth ⟨"keyword", .text "hail", [(keywordLocation, .text "body")]⟩ = false := by
  have haccepted : (Search.ofParams .articles solarPanels (.other (.data .null))).isOk = true := by
    decide +kernel
  cases hs : Search.ofParams .articles solarPanels (.other (.data .null)) with
  | error fault =>
    rw [hs] at haccepted
    cases haccepted
  | ok s =>
    obtain ⟨query, hquery, hmeans, -⟩ := evaluate_search hs
    refine ⟨s, rfl, query, hquery, ?_⟩
    intro truth htrue
    -- the blanks around a keyword are gone, and each side has its own modifier
    have hmatches := (hmeans truth).mp htrue
    have hkeyword : Field.several "keyword" "keywords" .token .all (some keywordLocation) ∈
        Field.vocabulary := List.mem_cons_self
    have hwanted : Mode.all.combine
        [truth ⟨"keyword", .text "solar", [(keywordLocation, .text "title")]⟩,
          truth ⟨"keyword", .text "panel", [(keywordLocation, .text "title")]⟩] = true :=
      hmatches.wanted _ hkeyword rfl
    have hignored : Mode.any.combine
        [truth ⟨"keyword", .text "recall", [(keywordLocation, .text "body")]⟩,
          truth ⟨"keyword", .text "hail", [(keywordLocation, .text "body")]⟩] = false :=
      hmatches.ignored _ hkeyword rfl
    simpa [Mode.combine, and_assoc] using And.intro hwanted hignored

end NewsSearch
