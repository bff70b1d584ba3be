import NewsSearch.Proofs.Json.RoundTrip
import NewsSearch.Proofs.Query.NormalForm
import NewsSearch.Proofs.Query.Reachable

/-!
Saved queries.

The query that a search sends is the JSON text of its compiled document.  A search made from that
text alone has the same filters and sends the very same text.

Three things meet here.

1. The document has a JSON form of its own, if the values in it have (`formed_document`, by
   induction on the tree).  Its keys are fields, modifiers and operators, which are whole texts by
   inspection, and each stands once in its object: a condition has a field and at most one modifier,
   and no field is called like a modifier.
2. So the document is read back from its text as it is, keys in order (`Json.read_write`).
3. From the document the tree is read back in its normal form (`ParsedDocument.ofRecord_compiled`),
   which is written as the tree itself is (`Node.document_normalize`).  The tree may have changed;
   what it is sent as has not.

What the induction in 1 carries is any property that is built up from parts (`Json.Formed`), since
it is needed for more than one: here for values with a JSON form, elsewhere for values that are only
written as the same text.

Main statement: `Search.saved_reloads`.
-/

namespace NewsSearch

open Text

/-! ## Documents have a JSON form

`P` is a property that lists and mappings have when their parts do, mappings with whole keys, each
of them once. -/

/-- A text whose characters are its code points is whole. -/
theorem Text.isWhole_of_eq {s : String} (h : ofCharacters s = s) : IsWhole s :=
  ⟨s.toList, h.symm⟩

/-- The texts in a condition are whole.  Only its value can be any text: its field and its modifier
    are words of the vocabulary. -/
def Condition.IsWhole (c : Condition) : Prop :=
  ∀ s, c.value = .text s → Text.IsWhole s

namespace ParsedDocument

open Json

/-- The operators of combinations are whole texts. -/
theorem isWhole_groupKey (mode : Mode) : IsWhole (groupKey mode) := by
  refine isWhole_of_eq ?_
  cases mode <;> decide +kernel

section Formed

variable {P : Data → Prop} (hP : Formed P)
include hP

/-- An object of one entry. -/
theorem formed_single {key : String} {d : Data} (hkey : IsWhole key) (hd : P d) :
    P (.map [(.text key, d)]) := by
  refine hP.map ?_ (List.pairwise_singleton _ _) ?_
  · exact List.forall_mem_singleton.mpr ⟨key, rfl, hkey⟩
  · exact List.forall_mem_singleton.mpr hd

/-- A modifier that may stand in a condition has a whole name, and its value is one of a few texts
    or a truth value. -/
theorem formed_modifier {name : String} {v : Data} (h : AllowedModifier name v) :
    IsWhole name ∧ P v := by
  cases h with
  | @location s known =>
    have hall : ∀ s ∈ keywordLocations, ofCharacters s = s := by decide +kernel
    exact ⟨isWhole_of_eq (by decide +kernel), hP.text (isWhole_of_eq (hall s known))⟩
  | subcategories b => exact ⟨isWhole_of_eq (by decide +kernel), hP.bool b⟩

/-- A condition that can be sent is written from its value. -/
theorem formed_condition {c : Condition} (hc : c.Sendable) (hvalue : P c.value) :
    P (.map c.document) := by
  obtain ⟨f, hf, hfield⟩ := hc.known
  -- every key of the vocabulary is written by its characters, which is evaluated
  have hkeys : ∀ f ∈ Field.vocabulary, ofCharacters f.key = f.key := by decide +kernel
  have hfieldWhole : IsWhole c.field := by
    rw [hfield]
    exact isWhole_of_eq (hkeys f hf)
  rw [hc.document_eq]
  rcases hc.modifiers with hnil | ⟨name, v, hname, hallowed, hone⟩
  · rw [hnil]
    exact formed_single hP hfieldWhole hvalue
  · -- the field and its modifier are two keys
    have hne : c.field ≠ name := by
      rw [hfield]
      exact Field.key_ne_modifier hf hname
    obtain ⟨hnameWhole, hv⟩ := formed_modifier hP hallowed
    rw [hone]
    refine hP.map ?_ ?_ ?_
    · exact List.forall_mem_cons.mpr
        ⟨⟨_, rfl, hfieldWhole⟩, List.forall_mem_singleton.mpr ⟨_, rfl, hnameWhole⟩⟩
    · refine List.pairwise_pair.mpr ?_
      simpa using hne
    · exact List.forall_mem_cons.mpr ⟨hvalue, List.forall_mem_singleton.mpr hv⟩

/-- A combination is written from its parts: from the list of them, or from the part itself when
    there is one. -/
theorem formed_combination (mode : Mode) {ns : List Node} (h : ∀ n ∈ ns, P (.map n.document)) :
    P (.map (Node.combination mode ns).document) := by
  -- the document when the combination is written as one
  have hlist : P (.map [(.text (groupKey mode), .list (Node.documents ns))]) := by
    refine formed_single hP (isWhole_groupKey mode) (hP.list ?_)
    rw [Node.documents_eq_map]
    exact List.forall_mem_map.mpr h
  match ns with
  | [] => cases mode <;> exact hlist
  | [n] =>
    rw [Node.document_combination_singleton]
    exact h n List.mem_cons_self
  | a :: b :: rest =>
    rw [document_group]
    exact hlist

end Formed

mutual

/-- **So a tree of such conditions is written from their values.** -/
theorem formed_document {P : Data → Prop} (hP : Formed P) : ∀ n : Node,
    (∀ c ∈ n.conditions, c.Sendable) →
    (∀ c ∈ n.conditions, P c.value) → P (.map n.document)
  | .condition c, hsendable, hvalues =>
    formed_condition hP (hsendable c List.mem_cons_self) (hvalues c List.mem_cons_self)
  | .not child, hsendable, hvalues =>
    formed_single hP (isWhole_of_eq (by decide +kernel))
      (formed_document hP child hsendable hvalues)
  | .all children, hsendable, hvalues =>
    formed_combination hP .all (formed_documents hP children hsendable hvalues)
  | .any children, hsendable, hvalues =>
    formed_combination hP .any (formed_documents hP children hsendable hvalues)

/-- So are several trees. -/
theorem formed_documents {P : Data → Prop} (hP : Formed P) : ∀ ns : List Node,
    (∀ c ∈ Node.conditionsOf ns, c.Sendable) →
    (∀ c ∈ Node.conditionsOf ns, P c.value) → ∀ n ∈ ns, P (.map n.document)
  | [], _, _ => fun _ hn => absurd hn List.not_mem_nil
  | n :: rest, hsendable, hvalues => by
    rw [Node.conditionsOf, List.forall_mem_append] at hsendable hvalues
    exact List.forall_mem_cons.mpr ⟨formed_document hP n hsendable.1 hvalues.1,
      formed_documents hP rest hsendable.2 hvalues.2⟩

end

/-- A known filter has a whole name and a whole setting, by inspection of the table. -/
theorem isWhole_of_isFilter {name setting : String} (h : Filters.IsFilter name setting) :
    IsWhole name ∧ IsWhole setting := by
  -- the table of filters is gone through once
  have hall : ∀ p ∈ Filters.settings, ofCharacters p.1 = p.1 ∧ ∀ s ∈ p.2, ofCharacters s = s := by
    decide +kernel
  obtain ⟨allowed, hallowed, hsetting⟩ := h
  obtain ⟨before, after, hsplit, -⟩ := List.lookup_eq_some_iff.mp hallowed
  obtain ⟨hname, hsettings⟩ := hall (name, allowed) (by simp [hsplit])
  exact ⟨isWhole_of_eq hname, isWhole_of_eq (hsettings setting hsetting)⟩

section Formed

variable {P : Data → Prop} (hP : Formed P)
include hP

/-- Sound filters have whole names and settings, and each name once. -/
theorem formed_filters {filters : Filters} (h : filters.Sound) : P (.map filters.document) := by
  refine hP.map ?_ ?_ ?_
  · intro e he
    obtain ⟨p, hp, rfl⟩ := List.mem_map.mp he
    exact ⟨p.1, rfl, (isWhole_of_isFilter (h.known p hp)).1⟩
  -- the names are different texts, so that the keys are different
  · have hnames := h.once
    rw [List.Nodup, List.pairwise_map] at hnames
    rw [Record.KeysOnce, Filters.document, List.pairwise_map]
    refine hnames.imp ?_
    intro p q hne
    simpa using hne
  · intro e he
    obtain ⟨p, hp, rfl⟩ := List.mem_map.mp he
    exact hP.text (isWhole_of_isFilter (h.known p hp)).2

/-- The document of such a tree, which may be absent, with sound filters.  It has one key or two. -/
theorem formed_compiled {root : Option Node} {filters : Filters}
    (hsendable : ∀ n ∈ root, ∀ c ∈ n.conditions, c.Sendable)
    (hvalues : ∀ n ∈ root, ∀ c ∈ n.conditions, P c.value) (hfilters : filters.Sound) :
    P (.map (compiled root filters.document)) := by
  have hquery : IsWhole queryKey := isWhole_of_eq (by decide +kernel)
  have hfilter : IsWhole filterKey := isWhole_of_eq (by decide +kernel)
  have hkeys : Scalar.same (.text queryKey) (.text filterKey) = false := by decide
  -- without a tree an empty object stands for it
  have hroot : P (.map ((root.map Node.document).getD [])) := by
    cases root with
    | none => exact hP.map (List.forall_mem_nil _) List.Pairwise.nil (List.forall_mem_nil _)
    | some n => exact formed_document hP n (hsendable n rfl) (hvalues n rfl)
  cases filters with
  | nil => exact formed_single hP hquery hroot
  | cons p rest =>
    refine hP.map ?_ ?_ ?_
    · exact List.forall_mem_cons.mpr
        ⟨⟨_, rfl, hquery⟩, List.forall_mem_singleton.mpr ⟨_, rfl, hfilter⟩⟩
    · exact List.pairwise_pair.mpr hkeys
    · exact List.forall_mem_cons.mpr
        ⟨hroot, List.forall_mem_singleton.mpr (formed_filters hP hfilters)⟩

end Formed

/-- With whole texts it is JSON: the value of a condition that can be sent is a text or an
    integer. -/
theorem isJson_compiled {root : Option Node} {filters : Filters}
    (hsendable : ∀ n ∈ root, ∀ c ∈ n.conditions, c.Sendable)
    (hwhole : ∀ n ∈ root, ∀ c ∈ n.conditions, c.IsWhole) (hfilters : filters.Sound) :
    IsJson (.map (compiled root filters.document)) := by
  refine formed_compiled formed_isJson hsendable (fun n hn c hc => ?_) hfilters
  rcases (hsendable n hn c hc).value with ⟨s, hs⟩ | ⟨k, hk⟩
  · rw [hs]
    exact .scalar (.text (hwhole n hn c hc s hs))
  · rw [hk]
    exact .scalar (.int k)

end ParsedDocument

/-! ## Searches from saved queries

The text is handed in as the only argument, without any parameters. -/

/-- An explicit search without parameters is what its query holds.  Without parameters no name is
    refused, no filter is set, and filters are allowed if the subject has them. -/
theorem Explicit.make_of_read {subject : Subject} {query : Argument} {root : Node}
    {filters : Filters} (hread : Explicit.read query = .ok (root, filters))
    (hunfiltered : subject.hasFilters = false → filters = []) :
    Explicit.make subject query [] = .ok ⟨subject, root, filters⟩ := by
  -- the steps of making an explicit search, each of which has nothing to refuse
  have hnames : checkNames subject [] = .ok () := by cases subject <;> rfl
  have hgiven {given : String × String → Option (String × Argument)}
      (hnone : ∀ param, given param = none) :
      Filters.ofParams (Filters.params.filterMap given) = .ok [] := by
    rw [List.filterMap_eq_nil_iff.mpr fun param _ => hnone param]
    rfl
  have hfurther : holdsFilters (Params.getD filtersParam []) = .ok false := rfl
  have hallowed : ((false || !filters.isEmpty) && !subject.hasFilters) = false := by
    cases hfilters : subject.hasFilters with
    | true => rw [Bool.not_true, Bool.and_false]
    | false => rw [hunfiltered hfilters]; rfl
  have hupdate : Filters.update filters [] = filters := rfl
  rw [make, hnames, hgiven, hread]
  · simp only [bind, Except.bind, hfurther, hupdate, hallowed]
    rfl
  · exact fun _ => rfl

/-- **The text of a query is read as the normal form of its tree, with its filters.** -/
theorem Explicit.read_saved {root : Node} {filters : Filters} (hproper : root.isProper = true)
    (hchecked : ∀ c ∈ root.conditions, c.IsChecked) (hwhole : ∀ c ∈ root.conditions, c.IsWhole)
    (hfilters : filters.Sound) {saved : String}
    (hsaved : Json.write Json.wire (.map (compiled (some root) filters.document)) = .ok saved) :
    Explicit.read (.data (.text saved)) = .ok (root.normalize, filters) := by
  -- the text is read as the document, and the document as the normal form
  have hjson : Json.IsJson (.map (compiled (some root) filters.document)) := by
    refine ParsedDocument.isJson_compiled ?_ ?_ hfilters
    · rintro n ⟨⟩ c hc
      exact (hchecked c hc).sendable
    · rintro n ⟨⟩
      exact hwhole
  have hread := Json.read_write hjson hsaved
  have hparse := ParsedDocument.ofRecord_compiled hproper hchecked hfilters.known
  rw [Explicit.read, ParsedDocument.parse, hread]
  simp only [hparse]
  rfl

/-- **A search is made again from the text of its query**: with the same filters, and with a tree
    that is written as the same text. -/
theorem Search.saved_reloads {s : Search} (hs : s.Reachable) {root : Node}
    (hroot : s.root = some root) (hchecked : ∀ c ∈ root.conditions, c.IsChecked)
    (hwhole : ∀ c ∈ root.conditions, c.IsWhole) {saved : String}
    (hsaved : s.documentText = .ok saved) :
    ∃ reloaded, Search.ofExplicit s.subject (.query (.data (.text saved))) = .ok reloaded ∧
      reloaded.filters = s.filters ∧ reloaded.documentText = .ok saved := by
  -- what callers can reach keeps to the language, so that the document is accepted again
  obtain ⟨hproper, hfilters, hunfiltered⟩ := hs.sound
  have hwrite : Json.write Json.wire (.map (compiled (some root) s.filters.document)) =
      .ok saved := by
    rw [documentText, mapError_eq_ok_iff, document, hroot] at hsaved
    exact hsaved
  have hread := Explicit.read_saved (hproper root hroot) hchecked hwhole hfilters hwrite
  have hmake := Explicit.make_of_read hread hunfiltered
  refine ⟨{ unrestricted s.subject with root := some root.normalize, filters := s.filters },
    ?_, rfl, ?_⟩
  · show (explicitOf s.subject (.query (.data (.text saved)))).map _ = _
    rw [explicitOf, hmake]
    rfl
  · -- the tree is another one, but it is written as the old one
    have hdocument : compiled (some root.normalize) s.filters.document =
        compiled (some root) s.filters.document := by
      rw [compiled, compiled, Option.map_some, Option.map_some, Node.document_normalize]
    simp only [documentText, document, hdocument, hwrite]
    rfl

/-- A keyword with quotes, a character outside ASCII and one that takes a pair, and a modifier. -/
def quotedKeyword : Condition :=
  ⟨"keyword", .text "café \"😀\"", [(keywordLocation, .text "title")]⟩

/-- An integer of many digits. -/
def quotedCount : Condition :=
  ⟨"minArticlesInEvent", .int 123456789012345678901234567890, []⟩

/-- Both of them, in combinations of a single part. -/
def quotedTree : Node :=
  .all [.any [.condition quotedKeyword], .not (.all [.condition quotedCount])]

/-- A search for articles with a filter. -/
def quotedSearch : Search :=
  ⟨.articles, some quotedTree, [("isDuplicate", "skipDuplicates")],
    [Search.standardSection .articles]⟩

/-- The text of its query. -/
def quotedText : String :=
  "\x7b\"$query\": \x7b\"$and\": [" ++
    "\x7b\"keyword\": \"caf\\u00e9 \\\"\\ud83d\\ude00\\\"\", \"keywordLoc\": \"title\"\x7d, " ++
    "\x7b\"$not\": \x7b\"minArticlesInEvent\": 123456789012345678901234567890\x7d\x7d]\x7d, " ++
    "\"$filter\": \x7b\"isDuplicate\": \"skipDuplicates\"\x7d\x7d"

/-- The search is made again from that text, and sends it again. -/
theorem Search.saved_reloads_quoted :
    quotedSearch.documentText = .ok quotedText ∧
      ∃ reloaded, Search.ofExplicit .articles (.query (.data (.text quotedText))) = .ok reloaded ∧
        reloaded.filters = [("isDuplicate", "skipDuplicates")] ∧
        reloaded.documentText = .ok quotedText := by
  have htext : quotedSearch.documentText = .ok quotedText := by
    have hsome : quotedSearch.documentText.toOption = some quotedText := by decide +kernel
    cases hresult : quotedSearch.documentText with
    | error fault => rw [hresult] at hsome; cases hsome
    | ok text => rw [hresult] at hsome; cases hsome; rfl
  have hmake : Explicit.make .articles (.node quotedTree)
      [("is_duplicate_filter", .data (.text "skipDuplicates"))] =
        .ok ⟨.articles, quotedTree, [("isDuplicate", "skipDuplicates")]⟩ := rfl
  have hsource : ExplicitSource.WellMade
      (.explicit ⟨.articles, quotedTree, [("isDuplicate", "skipDuplicates")]⟩) :=
    ⟨.articles, .node quotedTree, _, rfl, hmake⟩
  have hmade : Search.ofExplicit .articles
      (.explicit ⟨.articles, quotedTree, [("isDuplicate", "skipDuplicates")]⟩) =
        .ok quotedSearch := rfl
  have hreachable : quotedSearch.Reachable := .ofExplicit hsource hmade
  have hconditions : ∀ c ∈ quotedTree.conditions, c.IsChecked ∧ c.IsWhole := by
    intro c hc
    have hc' : c = quotedKeyword ∨ c = quotedCount := by
      simpa [quotedTree, Node.conditions, Node.conditionsOf] using hc
    rcases hc' with rfl | rfl
    · refine ⟨Condition.isChecked_of rfl rfl rfl (by decide), ?_⟩
      rintro s ⟨⟩
      exact isWhole_of_eq (by decide +kernel)
    · refine ⟨Condition.isChecked_of rfl rfl rfl (by decide), ?_⟩
      rintro s ⟨⟩
  exact ⟨htext, Search.saved_reloads hreachable rfl (fun c hc => (hconditions c hc).1)
    (fun c hc => (hconditions c hc).2) htext⟩

end NewsSearch
