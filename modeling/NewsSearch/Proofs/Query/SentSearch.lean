import NewsSearch.Proofs.Json.Writing
import NewsSearch.Proofs.Query.Acceptance
import NewsSearch.Proofs.Query.FlatMeaning

/-!
What a search sends.

A search that was made, from parameters or from a document, has conditions that can be sent
(`Search.Sendable`).  In its compiled document everything but their values belongs to the language
of queries.

1. The conditions in the tree of a document can be sent (`Grammar.Object.sendable`).  The induction
   is on how the document is read, one lemma for each kind of thing that is read; the condition on a
   field has a value of the field and at most one modifier, which may stand there
   (`Grammar.sendable_conditionOf`).  For trees from parameters the same is known from how they are
   compiled.
2. Consider a property that goes from the parts of a value to the whole and that texts and truth
   values have (`Data.OfValues`).  It holds of the document exactly when it holds of the values of
   the conditions (`Search.Sendable.document_iff`), by induction on the tree.
3. Two such properties matter: the shape of JSON, which the document always has (`Sendable.shaped`),
   and short integers (`Sendable.isShort_document_iff`).  The writer asks for nothing else.

So the query of a search has a text exactly when the integers asked for are short.

Main statement: `Search.Sendable.documentText_eq_ok_iff`.
-/

namespace NewsSearch

/-! ## Conditions from documents

The four relations that say how a document is read are defined together, and so are the four lemmas
about them. -/

namespace Grammar

/-- The condition that a field has a value can be sent, when the modifiers in its object may stand
    there. -/
theorem sendable_conditionOf {object : Record} {f : Field} (hfit : ModifiersFit object)
    (hf : f ∈ Field.vocabulary) {s : Scalar} {v : Data} (hsends : f.Sends s v) :
    (conditionOf object f v).Sendable := by
  refine ⟨⟨f, hf, rfl⟩, Condition.sent_cases hsends, ?_⟩
  have hone : (modifiersOf object f).length ≤ 1 := length_modifiersOf_le
  match hmodifiers : modifiersOf object f, hone with
  | [], _ => exact Or.inl hmodifiers
  | [(name, w)], _ =>
    have hmem : (name, w) ∈ modifiersOf object f := by
      rw [hmodifiers]
      exact List.mem_cons_self
    obtain ⟨hname, hfound⟩ := mem_modifiersOf.mp hmem
    have hname := Field.mem_modifierNames hf hname
    exact Or.inr ⟨name, w, hname, (hfit name hname w hfound).1, hmodifiers⟩

/-- A field with values stands for conditions, one for each value, all with the same modifiers. -/
theorem FieldEntry.sendable {object : Record} {f : Field} {item : Data} {n : Node}
    (hfit : ModifiersFit object) (hf : f ∈ Field.vocabulary) (h : FieldEntry object f item n) :
    ∀ c ∈ n.conditions, c.Sendable := by
  obtain @⟨mode, values, sent, -, -, -, hsends⟩ := h
  rw [Node.conditions_joined]
  clear * - hfit hf hsends
  induction hsends with
  | nil => exact fun c hc => absurd hc List.not_mem_nil
  | cons hfirst _ ih =>
    exact List.forall_mem_append.mpr
      ⟨List.forall_mem_singleton.mpr (sendable_conditionOf hfit hf hfirst), ih⟩

mutual

/-- The conditions in the tree that an object stands for can be sent. -/
theorem Object.sendable : ∀ {d : Data} {n : Node}, Object d n → ∀ c ∈ n.conditions, c.Sendable
  | _, _, .mk _ hfit hentries => by
    have hall := hentries.sendable hfit
    rwa [← Node.conditions_joined .all] at hall

/-- The conditions in the trees of its entries can be sent; a modifier stands for no tree. -/
theorem Entries.sendable : ∀ {object : Record} {entries : List (Scalar × Data)}
    {nodes : List Node}, Entries object entries nodes → ModifiersFit object →
      ∀ c ∈ Node.conditionsOf nodes, c.Sendable
  | _, _, _, .nil, _ => fun _ hc => absurd hc List.not_mem_nil
  | _, _, _, .modifier _ hothers, hfit => hothers.sendable hfit
  | _, _, _, .node hfirst hothers, hfit =>
    List.forall_mem_append.mpr ⟨hfirst.sendable hfit, hothers.sendable hfit⟩

/-- A group has the conditions of its objects, a negation those of what is negated, and a field its
    own. -/
theorem Entry.sendable : ∀ {object : Record} {key : String} {item : Data} {n : Node},
    Entry object key item n → ModifiersFit object → ∀ c ∈ n.conditions, c.Sendable
  | _, _, _, _, .group mode _ heach, _ => by
    rw [Node.conditions_joined]
    exact heach.sendable
  | _, _, _, _, .not hnegated, _ => hnegated.sendable
  | _, _, _, _, .field hf hentry, hfit => hentry.sendable hfit hf

/-- So can those in the trees of several objects. -/
theorem Objects.sendable : ∀ {objects : List Data} {nodes : List Node}, Objects objects nodes →
    ∀ c ∈ Node.conditionsOf nodes, c.Sendable
  | _, _, .nil => fun _ hc => absurd hc List.not_mem_nil
  | _, _, .cons hfirst hothers =>
    List.forall_mem_append.mpr ⟨hfirst.sendable, hothers.sendable⟩

end

/-- **The conditions in the tree of a document can be sent**, whether it is handed in as an object
    or as a text. -/
theorem Source.sendable {d : Data} {p : ParsedDocument} (h : Source d p) :
    ∀ c ∈ p.root.conditions, c.Sendable := by
  cases h with
  | object fits | text _ fits =>
    obtain ⟨_, -, hroot⟩ := fits.root
    exact hroot.sendable

end Grammar

/-! ## Searches -/

namespace Search

/-- The conditions of the search can be sent. -/
def Sendable (s : Search) : Prop := ∀ n ∈ s.root, ∀ c ∈ n.conditions, c.Sendable

/-- A search that is made from parameters can be sent. -/
theorem sendable_of_ofAllParams {subject : Subject} {params : Params} {s : Search}
    (h : ofAllParams subject params = .ok s) : s.Sendable :=
  Flat.sendable_of_compile (ofParams_root h)

/-- A search that is made from a document has the tree that the document is read as. -/
theorem parse_of_ofExplicit {subject : Subject} {source : Data} {s : Search}
    (h : ofExplicit subject (.query (.data source)) = .ok s) :
    ∃ p, ParsedDocument.parse source = .ok p ∧ s.root = some p.root := by
  obtain ⟨e, hmake, rfl⟩ := map_eq_ok_iff.mp h
  simp only [explicitOf, Explicit.make, bind_eq_ok_iff] at hmake
  obtain ⟨_, -, given, -, ⟨root, own⟩, hread, further, -, hmake⟩ := hmake
  simp only [] at hmake
  split at hmake
  · cases hmake
  · cases hmake
    obtain ⟨p, hparse, heq⟩ := map_eq_ok_iff.mp hread
    cases heq
    exact ⟨p, hparse, rfl⟩

/-- So it can be sent. -/
theorem sendable_of_ofExplicit {subject : Subject} {source : Data} {s : Search}
    (h : ofExplicit subject (.query (.data source)) = .ok s) : s.Sendable := by
  obtain ⟨p, hparse, hroot⟩ := parse_of_ofExplicit h
  rw [Sendable, hroot]
  rintro n ⟨⟩
  exact (ParsedDocument.source_of_parse hparse).sendable

end Search

/-! ## Documents

The properties are those of whole values that can be checked part by part. -/

/-- A property that lists and mappings have when their parts do, keys having one of their own. -/
structure Data.Compositional (K : Scalar → Prop) (P : Data → Prop) : Prop where
  list : ∀ {items : List Data}, P (.list items) ↔ ∀ d ∈ items, P d
  map : ∀ {entries : Record}, P (.map entries) ↔ ∀ e ∈ entries, K e.1 ∧ P e.2

/-- What holds of every key and of every scalar in a value is one of them. -/
theorem Data.compositional_every (K V : Scalar → Prop) : Compositional K (Every K V) :=
  ⟨every_list_iff, every_map_iff⟩

/-- The shape of JSON is another, with texts as the only keys. -/
theorem Json.compositional_shaped :
    Data.Compositional (fun k => ∃ name, k = .text name) Shaped := by
  constructor
  · exact ⟨fun | .list each => each, .list⟩
  · exact ⟨fun | .map keys each => fun e he => ⟨keys e he, each e he⟩,
      fun h => .map (fun e he => (h e he).1) fun e he => (h e he).2⟩

/-- A compositional property that all texts and truth values have; texts may be keys. -/
structure Data.OfValues (K : Scalar → Prop) (P : Data → Prop) : Prop extends
    Compositional K P where
  key : ∀ s, K (.text s)
  text : ∀ s, P (.text s)
  bool : ∀ b, P (.bool b)

section Documents

variable {K : Scalar → Prop} {P : Data → Prop}

open ParsedDocument

/-- An object of one entry has the property when what stands in it does. -/
theorem Data.OfValues.single (hP : Data.OfValues K P) (name : String) {d : Data} :
    P (.map [(.text name, d)]) ↔ P d := by
  rw [hP.map, List.forall_mem_singleton]
  exact and_iff_right (hP.key name)

/-- A condition is written from its value and from words of the language. -/
theorem Condition.Sendable.document_iff (hP : Data.OfValues K P) {c : Condition}
    (h : c.Sendable) : P (.map c.document) ↔ P c.value := by
  have hmodifiers : ∀ m ∈ c.modifiers, P m.2 := by
    rcases h.modifiers with hnil | ⟨name, v, -, hallowed, hone⟩
    · simp [hnil]
    · rw [hone, List.forall_mem_singleton]
      cases hallowed with
      | location => exact hP.text _
      | subcategories b => exact hP.bool b
  rw [h.document_eq, hP.map, List.forall_mem_cons, List.forall_mem_map]
  constructor
  · exact fun hall => hall.1.2
  · exact fun hvalue => ⟨⟨hP.key _, hvalue⟩, fun m hm => ⟨hP.key _, hmodifiers m hm⟩⟩

/-- A combination is written from its parts, also when there is only one and it is written as that
    part. -/
theorem Node.combination_document_iff (hP : Data.OfValues K P) (mode : Mode) {ns : List Node} :
    P (.map (combination mode ns).document) ↔ ∀ n ∈ ns, P (.map n.document) := by
  have hlist : P (.map [(.text (groupKey mode), .list (documents ns))]) ↔
      ∀ n ∈ ns, P (.map n.document) := by
    rw [hP.single, hP.list, documents_eq_map, List.forall_mem_map]
  match ns with
  | [] => cases mode <;> exact hlist
  | [n] => rw [document_combination_singleton, List.forall_mem_singleton]
  | a :: b :: rest => rwa [document_group]

mutual

/-- **A tree is written from the values of its conditions and from words of the language.** -/
theorem Node.document_iff (hP : Data.OfValues K P) : ∀ n : Node,
    (∀ c ∈ n.conditions, c.Sendable) →
      (P (.map n.document) ↔ ∀ c ∈ n.conditions, P c.value)
  | .condition c, h => by
    rw [conditions, List.forall_mem_singleton]
    exact (h c List.mem_cons_self).document_iff hP
  | .not child, h => by
    rw [document, hP.single]
    exact Node.document_iff hP child h
  | .all children, h => (combination_document_iff hP .all).trans (documents_iff hP children h)
  | .any children, h => (combination_document_iff hP .any).trans (documents_iff hP children h)

/-- So are several trees. -/
theorem Node.documents_iff (hP : Data.OfValues K P) : ∀ ns : List Node,
    (∀ c ∈ conditionsOf ns, c.Sendable) →
      ((∀ n ∈ ns, P (.map n.document)) ↔ ∀ c ∈ conditionsOf ns, P c.value)
  | [], _ => by simp [conditionsOf]
  | n :: rest, h => by
    rw [conditionsOf, List.forall_mem_append] at h ⊢
    rw [List.forall_mem_cons, Node.document_iff hP n h.1, Node.documents_iff hP rest h.2]

end

namespace Search

variable {s : Search}

/-- The compiled document is written from the values of the conditions and from words of the
    language; the filters are such words as well. -/
theorem Sendable.document_iff (hP : Data.OfValues K P) (h : s.Sendable) :
    P (.map s.document) ↔ ∀ n ∈ s.root, ∀ c ∈ n.conditions, P c.value := by
  have hroot : P (.map ((s.root.map Node.document).getD [])) ↔
      ∀ n ∈ s.root, ∀ c ∈ n.conditions, P c.value := by
    cases hroot : s.root with
    | none => simp [hP.map]
    | some n =>
      have hn := Node.document_iff hP n (h n hroot)
      simpa using hn
  have hfilters : P (.map s.filters.document) := by
    refine hP.map.mpr (List.forall_mem_map.mpr ?_)
    exact fun p _ => ⟨hP.key p.1, hP.text p.2⟩
  rw [document, compiled, hP.map, List.forall_mem_cons, hroot]
  have hrest : ∀ e ∈ (if s.filters.document.isEmpty = true then []
      else [((Scalar.text filterKey), Data.map s.filters.document)]), K e.1 ∧ P e.2 := by
    split
    · exact fun e he => absurd he List.not_mem_nil
    · exact List.forall_mem_singleton.mpr ⟨hP.key _, hfilters⟩
  exact ⟨fun hall => hall.1.2, fun hvalues => ⟨⟨hP.key _, hvalues⟩, hrest⟩⟩

/-- The compiled document has the shape of JSON: the values of conditions are texts and integers. -/
theorem Sendable.shaped (h : s.Sendable) : Json.Shaped (.map s.document) := by
  have hshaped : Data.OfValues _ Json.Shaped :=
    ⟨Json.compositional_shaped, fun name => ⟨name, rfl⟩, .text, .bool⟩
  refine (h.document_iff hshaped).mpr ?_
  intro n hn c hc
  rcases (h n hn c hc).value with ⟨t, ht⟩ | ⟨k, hk⟩
  · rw [ht]
    exact .text t
  · rw [hk]
    exact .int k

/-- The integers that are asked for in the query are short. -/
def HasShortIntegers (s : Search) : Prop :=
  ∀ n ∈ s.root, ∀ c ∈ n.conditions, ∀ k, c.value = .int k → k.natAbs < Number.pow10 Text.digitLimit

/-- The integers in the compiled document are those that are asked for. -/
theorem Sendable.isShort_document_iff (h : s.Sendable) :
    (Data.map s.document).IsShort ↔ s.HasShortIntegers := by
  have hshort : Data.OfValues (fun _ => True) Data.IsShort :=
    ⟨Data.compositional_every _ _, fun _ => trivial, fun s => .scalar (by rintro n ⟨⟩),
      fun b => .scalar (by rintro n ⟨⟩)⟩
  have hvalue : ∀ n ∈ s.root, ∀ c ∈ n.conditions,
      (c.value.IsShort ↔ ∀ k, c.value = .int k → k.natAbs < Number.pow10 Text.digitLimit) := by
    intro n hn c hc
    rcases (h n hn c hc).value with ⟨t, ht⟩ | ⟨k, hk⟩
    · rw [ht]
      exact iff_of_true (hshort.text t) (by rintro k ⟨⟩)
    · rw [hk, Data.IsShort, Data.every_scalar_iff, Scalar.isShort_int_iff]
      exact ⟨fun hs j hj => by cases hj; exact hs, fun hs => hs k rfl⟩
  rw [h.document_iff hshort]
  exact forall₂_congr fun n hn => forall₂_congr fun c hc => hvalue n hn c hc

/-- **The query of a search that can be sent has a text exactly when its integers are short.** -/
theorem Sendable.documentText_eq_ok_iff (h : s.Sendable) :
    (∃ text, s.documentText = .ok text) ↔ s.HasShortIntegers := by
  have hfault : Json.fault? false (.map s.document) = none ↔ s.HasShortIntegers := by
    rw [Json.fault?_eq_none_iff h.shaped, h.isShort_document_iff]
  rw [← hfault]
  simp only [documentText, mapError_eq_ok_iff, Json.write]
  cases Json.fault? false (.map s.document) <;> simp

/-- A page of a listing can be asked for when the query has a text: the parameters of the listing
    can always be given.  Nothing else in the body can fail to be built. -/
theorem body_eq_ok_iff {l : Listing} (hkind : l.kind ≠ .eventArticles) {further : Record}
    (hextra : l.extra.optionalEntries = .ok further) :
    (∃ body, s.body [.listing l] = .ok body) ↔ ∃ text, s.documentText = .ok text := by
  obtain ⟨params, hparams⟩ : ∃ params, (Section.listing l).params = .ok params := by
    simp only [Section.params, Section.ownParams, Section.extra, Listing.ownParams, if_neg hkind,
      hextra, bind, Except.bind]
    exact ⟨_, rfl⟩
  rw [body]
  cases s.documentText with
  | error fault => simp [bind, Except.bind]
  | ok text =>
    refine iff_of_true ?_ ⟨text, rfl⟩
    simp only [bind, Except.bind, List.isEmpty_cons, requestBody, Data.gathered_map,
      requestBody.withParams, hparams, Bool.false_eq_true, if_false]
    exact ⟨_, rfl⟩

end Search

end Documents

end NewsSearch
