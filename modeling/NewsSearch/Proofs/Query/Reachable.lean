import NewsSearch.Proofs.Json.Reading
import NewsSearch.Proofs.Query.Acceptance
import NewsSearch.Proofs.Query.FlatMeaning
import NewsSearch.Proofs.Query.NormalForm

/-!
What the searches are that callers can make.

A search is made from parameters or from an explicit search, and calls change it afterwards
(`Search.Reachable`).  Callers hand in values of the language they write in, in which a mapping has
each key once, a combination of values or of trees has a part, and a parameter is given once
(`Argument.WellMade`).

Whatever is made of that keeps to three things (`SoundQuery`): every combination in the tree has a
part, the filters are known ones with each name once, and searches for events have none.  This is
what the documents that are written from a search need to be read again.

1. A tree from a document has a part in every combination (`Grammar.Object.isProper`).  It is enough
   to see that an object stands for at least one tree.  An object with entries could stand for none
   only if all its keys were modifiers, but a modifier is accepted only beside a field that has it
   (`Grammar.nodes_ne_nil`).
2. A tree from parameters has, too: a parameter that is looked at is populated, and what is
   populated has a value unless it is a wrapper around nothing, which cannot be written
   (`Flat.isProper_of_compile`).
3. Filters are accepted only when they are known (`Filters.known_of_params`).  Each name stands
   there once, because the names come from different parameters or from different keys of one
   mapping (`Filters.sound_of_params`, `Filters.sound_of_entry`), and because setting a filter that
   is there replaces it (`Filters.Sound.update`).
4. Explicit searches put 1 and 3 together (`Explicit.sound_of_make`), and searches from parameters 2
   and 3 (`Search.sound_ofParams`).
5. A call that changes the section changes neither tree nor filters, and a call with an explicit
   search takes both from it.  So the three things hold after any sequence of calls, by induction on
   how the search came about.

Main statement: `Search.Reachable.sound`.
-/

namespace NewsSearch

/-! ## Trees from documents

The induction is on how a document is read, one lemma for each kind of thing that is read: an
object, its entries, one entry, and a list of objects. -/

namespace Grammar

/-- Entries that stand for no tree are all modifiers, since every other entry stands for one. -/
theorem Entries.modifiers : ∀ {object : Record} {entries : List (Scalar × Data)},
    Entries object entries [] → ∀ e ∈ entries, ∃ name ∈ Field.modifierNames, e.1 = .text name
  | _, _, .nil => fun _ he => absurd he List.not_mem_nil
  | _, _, .modifier hname hothers =>
    List.forall_mem_cons.mpr ⟨⟨_, hname, rfl⟩, hothers.modifiers⟩

/-- An object of the language stands for at least one tree.  If it stood for none, all its keys
    would be modifiers; but a modifier has its field beside it, and the key of a field is no
    modifier. -/
theorem nodes_ne_nil {object : Record} {nodes : List Node} (hne : object ≠ [])
    (hfit : ModifiersFit object) (h : Entries object object nodes) : nodes ≠ [] := by
  rintro rfl
  -- then every key is a modifier; but the field of the first one is a key too
  have hmodifiers := h.modifiers
  obtain ⟨⟨key, item⟩, rest, rfl⟩ := List.exists_cons_of_ne_nil hne
  obtain ⟨name, hname, rfl⟩ := hmodifiers _ List.mem_cons_self
  have hget : Record.get? name ((.text name, item) :: rest) = some item := by
    simp [Record.get?, Record.find?]
  obtain ⟨-, f, hf, -, hfield⟩ := hfit name hname item hget
  rw [Record.contains, List.any_eq_true] at hfield
  obtain ⟨⟨other, _⟩, he, hkey⟩ := hfield
  obtain ⟨modifier, hmodifier, rfl⟩ := hmodifiers _ he
  have heq : modifier = f.key := by simpa using hkey
  exact Field.key_ne_modifier hf hmodifier heq.symm

/-- A field with values stands for a combination of conditions, as many as there are values. -/
theorem FieldEntry.isProper {object : Record} {f : Field} {item : Data} {n : Node}
    (h : FieldEntry object f item n) : n.isProper = true := by
  obtain @⟨mode, values, sent, -, hne, -, hsends⟩ := h
  refine Node.isProper_joined mode ?_ ?_
  · rintro hnil
    rw [List.map_eq_nil_iff.mp hnil] at hsends
    cases hsends
    exact hne rfl
  · rintro n hn
    obtain ⟨v, -, rfl⟩ := List.mem_map.mp hn
    rfl

/-- There are as many trees as objects. -/
theorem Objects.ne_nil {objects : List Data} {nodes : List Node} (h : Objects objects nodes)
    (hne : objects ≠ []) : nodes ≠ [] := by
  cases h with
  | nil => exact absurd rfl hne
  | cons => exact List.cons_ne_nil _ _

mutual

/-- **Every combination that an object stands for has a part**, at any depth. -/
theorem Object.isProper : ∀ {d : Data} {n : Node}, Object d n → n.isProper = true
  | _, _, .mk hne hfit hentries =>
    Node.isProper_joined .all (nodes_ne_nil hne hfit hentries) hentries.isProper

/-- So has every combination that its entries stand for. -/
theorem Entries.isProper : ∀ {object : Record} {entries : List (Scalar × Data)} {nodes : List Node},
    Entries object entries nodes → ∀ n ∈ nodes, n.isProper = true
  | _, _, _, .nil => fun _ hn => absurd hn List.not_mem_nil
  | _, _, _, .modifier _ hothers => hothers.isProper
  | _, _, _, .node hfirst hothers =>
    List.forall_mem_cons.mpr ⟨hfirst.isProper, hothers.isProper⟩

/-- A group has a part because it has objects, a negation has the part that is negated, and a field
    has its values. -/
theorem Entry.isProper : ∀ {object : Record} {key : String} {item : Data} {n : Node},
    Entry object key item n → n.isProper = true
  | _, _, _, _, .group mode hne heach =>
    Node.isProper_joined mode (heach.ne_nil hne) heach.isProper
  | _, _, _, _, .not hnegated => hnegated.isProper
  | _, _, _, _, .field _ hentry => hentry.isProper

/-- Each of several objects stands for a tree of this kind. -/
theorem Objects.isProper : ∀ {objects : List Data} {nodes : List Node}, Objects objects nodes →
    ∀ n ∈ nodes, n.isProper = true
  | _, _, .nil => fun _ hn => absurd hn List.not_mem_nil
  | _, _, .cons hfirst hothers =>
    List.forall_mem_cons.mpr ⟨hfirst.isProper, hothers.isProper⟩

end

end Grammar

/-! ## What callers hand in -/

/-- What can be written as an argument: mappings within data have each key once, a wrapper has a
    value, and every combination in a tree has a part. -/
def Argument.WellMade : Argument → Prop
  | .data d => d.KeysOnce
  | .node n => n.isProper = true
  | .wrapped _ values => values ≠ []
  | .list _ | .tuple _ | .map _ => True

/-- No wrapper that can be written is without a value. -/
theorem Argument.WellMade.ne_wrapped {a : Argument} (h : a.WellMade) (mode : Mode) :
    a ≠ .wrapped mode [] := by
  rintro rfl
  exact h rfl

/-! ## Trees from parameters

A flat search is compiled to the trees of its populated parameters.  What each is made of is known
from `Made`; here it only matters that it is made of something. -/

namespace Flat

variable {side : Side} {params : Params} {f : Field}

/-- A tree that is made of values, of which there are some, has a part in every combination: it is
    one combination of conditions. -/
theorem Made.isProper {n : Node} (h : Made side params f n)
    (hne : (side.given params f).values ≠ []) : n.isProper = true := by
  obtain ⟨hgiven, -, hsends, -⟩ := h
  refine Node.isProper_joined _ ?_ ?_
  · rintro hnil
    rw [List.map_eq_nil_iff.mp hnil] at hsends
    cases hsends
    exact hne hgiven
  · rw [List.forall_mem_map]
    exact fun _ _ => rfl

/-- The same for the trees of all populated fields on a side. -/
theorem isProper_of_made (hparams : ∀ p ∈ params, ∀ mode, p.2 ≠ .wrapped mode [])
    {fields : List Field} {nodes : List Node} (h : List.Forall₂ (Made side params) fields nodes)
    (hfull : ∀ f ∈ fields, (side.given params f).isPopulated = true) :
    ∀ n ∈ nodes, n.isProper = true := by
  intro n hn
  obtain ⟨f, hf, hmade⟩ := exists_of_mem_right h n hn
  exact hmade.isProper (values_ne_nil (given_ne_wrapped hparams) (hfull f hf))

/-- What is left out becomes one negated combination, and only when there is something to leave
    out. -/
theorem isProper_of_mem_exclusion {negatives : List Node} (h : ∀ n ∈ negatives, n.isProper = true) :
    ∀ n ∈ exclusion negatives, n.isProper = true := by
  intro n hn
  unfold exclusion at hn
  split at hn
  · cases hn
  · next hne =>
    rw [List.mem_singleton.mp hn]
    exact Node.isProper_joined .any (by simpa using hne) h

/-- **The tree of a flat search, if it has one, has a part in every combination.**  Its branches are
    the trees of what is wanted and the one exclusion, and without a branch there is no tree. -/
theorem isProper_of_compile (hparams : ∀ p ∈ params, ∀ mode, p.2 ≠ .wrapped mode [])
    {scope : Scope} {root : Option Node} (h : compile scope params = .ok root) :
    ∀ n ∈ root, n.isProper = true := by
  simp only [compile, bind_eq_ok_iff] at h
  obtain ⟨_, -, ⟨positives, negatives⟩, hparts, hroot⟩ := h
  cases hroot
  obtain ⟨hwanted, hignored⟩ := parts_made (fun _ hf => hf) hparts
  have hpositives := isProper_of_made hparams hwanted fun _ => isPopulated_of_mem_populated
  have hnegatives := isProper_of_made hparams hignored fun _ => isPopulated_of_mem_populated
  have hbranches : ∀ n ∈ positives ++ exclusion negatives, n.isProper = true :=
    List.forall_mem_append.mpr ⟨hpositives, isProper_of_mem_exclusion hnegatives⟩
  intro n hn
  unfold assemble at hn
  generalize positives ++ exclusion negatives = branches at hn hbranches
  cases branches with
  | nil => cases hn
  | cons first others =>
    cases hn
    rw [Node.isProper, Node.areProper_iff.mpr hbranches]
    rfl

end Flat

/-! ## Filters

Filters are a list of names with settings.  They come from parameters or from a document, and
further parameters may set some of them again. -/

namespace Filters

/-- Known filters, each name once. -/
structure Sound (filters : Filters) : Prop where
  known : ∀ p ∈ filters, IsFilter p.1 p.2
  once : (filters.map (·.1)).Nodup

theorem Sound.nil : Sound [] := ⟨fun _ hp => absurd hp List.not_mem_nil, List.nodup_nil⟩

/-- Setting a filter changes no names but perhaps adds its own: what is there afterwards is the new
    setting or was there before. -/
theorem mem_set {name setting : String} {filters : Filters} {p : String × String}
    (h : p ∈ set name setting filters) : p = (name, setting) ∨ p ∈ filters := by
  induction filters with
  | nil => exact Or.inl (List.mem_singleton.mp h)
  | cons q rest ih =>
    obtain ⟨n, s⟩ := q
    rw [set] at h
    split at h
    · next heq =>
      rcases List.mem_cons.mp h with rfl | h
      · exact Or.inl (by rw [heq])
      · exact Or.inr (List.mem_cons_of_mem _ h)
    · rcases List.mem_cons.mp h with rfl | h
      · exact Or.inr List.mem_cons_self
      · exact (ih h).imp_right (List.mem_cons_of_mem _)

/-- Setting a filter leaves each name once, because the setting goes to the place of the old one, if
    there is one. -/
theorem nodup_set {name setting : String} {filters : Filters} (h : (filters.map (·.1)).Nodup) :
    ((set name setting filters).map (·.1)).Nodup := by
  induction filters with
  | nil => exact List.nodup_cons.mpr ⟨List.not_mem_nil, List.nodup_nil⟩
  | cons q rest ih =>
    obtain ⟨n, s⟩ := q
    obtain ⟨hfirst, hrest⟩ := List.nodup_cons.mp h
    rw [set]
    split
    · exact h
    · next hne =>
      refine List.nodup_cons.mpr ⟨?_, ih hrest⟩
      intro hmem
      obtain ⟨p, hp, heq⟩ := List.mem_map.mp hmem
      rcases mem_set hp with rfl | hp
      · exact hne heq.symm
      · exact hfirst (List.mem_map.mpr ⟨p, hp, heq⟩)

/-- A known filter may be set. -/
theorem Sound.set {name setting : String} {filters : Filters} (h : filters.Sound)
    (hfilter : IsFilter name setting) : (set name setting filters).Sound := by
  refine ⟨?_, nodup_set h.once⟩
  intro p hp
  rcases mem_set hp with rfl | hp
  · exact hfilter
  · exact h.known p hp

/-- So may several, one after the other. -/
theorem Sound.update {filters changes : Filters} (h : filters.Sound)
    (hchanges : ∀ p ∈ changes, IsFilter p.1 p.2) : (filters.update changes).Sound := by
  induction changes generalizing filters with
  | nil => exact h
  | cons p rest ih =>
    obtain ⟨hp, hrest⟩ := List.forall_mem_cons.mp hchanges
    exact ih (h.set hp) hrest

/-- Filters that are accepted from entries are known, and named as the entries are. -/
theorem sound_of_parseEntries {given : List (Scalar × Argument)} {filters : Filters}
    (hgiven : given.Pairwise fun a b => a.1 ≠ b.1) (h : parseEntries given = .ok filters) :
    filters.Sound := by
  obtain ⟨rfl, hknown⟩ := parseEntries_eq_ok_iff.mp h
  refine ⟨hknown, ?_⟩
  rw [entries, List.pairwise_map] at hgiven
  rw [List.Nodup, List.pairwise_map]
  exact hgiven.imp fun hne heq => hne (congrArg Scalar.text heq)

/-- No two parameters give the same filter, which is read off the table. -/
theorem param_of_lookup {first second name : String} (hfirst : params.lookup first = some name)
    (hsecond : params.lookup second = some name) : first = second := by
  have hall : ∀ p ∈ params, ∀ q ∈ params, p.2 = q.2 → p.1 = q.1 := by decide
  have hmem : ∀ {param}, params.lookup param = some name → (param, name) ∈ params := by
    intro param hfound
    obtain ⟨before, after, hsplit, -⟩ := List.lookup_eq_some_iff.mp hfound
    simp [hsplit]
  exact hall _ (hmem hfirst) _ (hmem hsecond) rfl

/-- Filters from parameters, each of them given once, are known and have each name once: different
    parameters give different filters. -/
theorem sound_of_params {given : List (String × Argument)} {filters : Filters}
    (hgiven : (given.map (·.1)).Nodup) (h : ofParams given = .ok filters) : filters.Sound := by
  rw [ofParams, mapError_eq_ok_iff] at h
  refine sound_of_parseEntries ?_ h
  -- parameters with nothing in them give no filter, and the others give different ones
  rw [List.Nodup, List.pairwise_map] at hgiven
  refine hgiven.filterMap _ ?_
  rintro ⟨first, a⟩ ⟨second, b⟩ hne e he e' he' heq
  simp only [] at he he' hne
  split at he
  · cases he
  · split at he'
    · cases he'
    · obtain ⟨name, hname, rfl⟩ := Option.map_eq_some_iff.mp he
      obtain ⟨name', hname', rfl⟩ := Option.map_eq_some_iff.mp he'
      cases heq
      exact hne (param_of_lookup hname hname')

/-- Filters from parameters are known, however often a parameter is given. -/
theorem known_of_params {given : List (String × Argument)} {filters : Filters}
    (h : ofParams given = .ok filters) : ∀ p ∈ filters, IsFilter p.1 p.2 := by
  rw [ofParams, mapError_eq_ok_iff] at h
  exact (parseEntries_eq_ok_iff.mp h).2

/-- Filters from a document are known, and each name stands there once because it is a key of one
    mapping. -/
theorem sound_of_entry {d : Data} {filters : Filters} (hd : d.KeysOnce)
    (h : Grammar.FilterEntry d filters) : filters.Sound := by
  cases h with
  | none => exact .nil
  | object filters known =>
    refine ⟨known, ?_⟩
    cases hd with
    | map once =>
      rw [Record.KeysOnce, document, List.pairwise_map] at once
      rw [List.Nodup, List.pairwise_map]
      refine once.imp ?_
      rintro ⟨n, s⟩ ⟨m, t⟩ hsame heq
      simp only [Scalar.same_text] at hsame
      rw [show n = m from heq] at hsame
      simp at hsame

end Filters

/-! ## Explicit searches -/

/-- A tree, which may be absent, and filters that keep to the language of searches. -/
structure SoundQuery (subject : Subject) (root : Option Node) (filters : Filters) : Prop where
  proper : ∀ n ∈ root, n.isProper = true
  known : filters.Sound
  unfiltered : subject.hasFilters = false → filters = []

namespace Explicit

open ParsedDocument

/-- What is read from a document keeps to the language, whether the document is handed in as an
    object or as a text: reading a text keeps the last of several equal keys only. -/
theorem sound_of_parse {source : Data} {p : ParsedDocument} (hsource : source.KeysOnce)
    (h : parse source = .ok p) : p.root.isProper = true ∧ p.filters.Sound := by
  have hdocument : ∀ {document : Record}, Data.KeysOnce (.map document) →
      Grammar.Document document p → p.root.isProper = true ∧ p.filters.Sound := by
    rintro document honce ⟨-, ⟨query, -, hroot⟩, hfilters⟩
    exact ⟨hroot.isProper, Filters.sound_of_entry (Data.keysOnce_getD honce _) hfilters⟩
  cases source_of_parse h with
  | object hfits => exact hdocument hsource hfits
  | text hreads hfits => exact hdocument (Json.keysOnce_of_read hreads) hfits

/-- What a query argument holds keeps to the language: a tree as it is, or what a document is read
    as. -/
theorem sound_of_read {query : Argument} {root : Node} {filters : Filters}
    (hquery : query.WellMade) (h : read query = .ok (root, filters)) :
    root.isProper = true ∧ filters.Sound := by
  cases query with
  | node n =>
    cases h
    exact ⟨hquery, .nil⟩
  | data source =>
    obtain ⟨p, hp, heq⟩ := map_eq_ok_iff.mp h
    cases heq
    exact sound_of_parse hquery hp
  | _ => cases h

/-- **So does an explicit search.**  The filters of its document are changed by those of its
    parameters, and neither is accepted for events. -/
theorem sound_of_make {subject : Subject} {query : Argument} {params : Params} {e : Explicit}
    (hquery : query.WellMade) (h : make subject query params = .ok e) :
    e.subject = subject ∧ SoundQuery subject (some e.root) e.filters := by
  simp only [make, bind_eq_ok_iff] at h
  obtain ⟨_, -, given, hgiven, ⟨root, own⟩, hread, further, -, h⟩ := h
  split at h
  · cases h
  · next hallowed =>
    cases h
    obtain ⟨hroot, hown⟩ := sound_of_read hquery hread
    refine ⟨rfl, ?_, hown.update (Filters.known_of_params hgiven), ?_⟩
    · rintro n ⟨⟩
      exact hroot
    · intro hnone
      rw [hnone, Bool.not_false, Bool.and_true, Bool.or_eq_true, not_or, Bool.not_eq_true',
        Bool.not_eq_false, List.isEmpty_iff] at hallowed
      exact hallowed.2

end Explicit

/-! ## Searches -/

/-- What an explicit search can be given as. -/
def ExplicitSource.WellMade : ExplicitSource → Prop
  | .explicit e => ∃ subject query params, Argument.WellMade query ∧
      Explicit.make subject query params = .ok e
  | .query a => a.WellMade

namespace Search

/-- A search that callers can make: from parameters or from an explicit search, and then changed by
    calls, each of which may ask for a section alone, for one more section, or for the tree and the
    filters of an explicit search. -/
inductive Reachable : Search → Prop
  | ofParams {subject : Subject} {params : Params} {offer : Offer} {s : Search}
      (once : (params.map (·.1)).Nodup) (given : ∀ p ∈ params, p.2.WellMade)
      (made : Search.ofParams subject params offer = .ok s) : Reachable s
  | ofExplicit {subject : Subject} {source : ExplicitSource} {s : Search}
      (given : source.WellMade) (made : Search.ofExplicit subject source = .ok s) : Reachable s
  | setSection {s s' : Search} {offer : Offer} (before : Reachable s)
      (done : s.setSection offer = .ok s') : Reachable s'
  | addSection {s s' : Search} {offer : Offer} (before : Reachable s)
      (done : s.addSection offer = .ok s') : Reachable s'
  | withExplicit {s s' : Search} {source : ExplicitSource} (before : Reachable s)
      (given : source.WellMade) (done : s.withExplicit source = .ok s') : Reachable s'

/-- A tree and filters taken from an explicit search keep to the language, also when the explicit
    search was made before: then it must be for the same subject. -/
theorem sound_withExplicit {s s' : Search} {source : ExplicitSource} (hsource : source.WellMade)
    (h : s.withExplicit source = .ok s') : SoundQuery s'.subject s'.root s'.filters := by
  obtain ⟨e, he, rfl⟩ := map_eq_ok_iff.mp h
  cases source with
  | explicit given =>
    simp only [explicitOf] at he
    split at he
    · next hsubject =>
      cases he
      obtain ⟨subject, query, params, hquery, hmake⟩ := hsource
      obtain ⟨heq, hsound⟩ := Explicit.sound_of_make hquery hmake
      rw [← hsubject, heq]
      exact hsound
    · cases he
  | query a =>
    exact (Explicit.sound_of_make hsource he).2

/-- A search from parameters keeps to the language. -/
theorem sound_ofParams {subject : Subject} {params : Params} {offer : Offer} {s : Search}
    (honce : (params.map (·.1)).Nodup) (hgiven : ∀ p ∈ params, p.2.WellMade)
    (h : Search.ofParams subject params offer = .ok s) :
    SoundQuery s.subject s.root s.filters := by
  have hroot := ofParams_root h
  simp only [Search.ofParams, check_eq_ok_iff, bind_eq_ok_iff] at h
  obtain ⟨-, -, hallowed, filters, hfilters, root, -, wanted, -, hs⟩ := h
  cases hs
  refine ⟨?_, ?_, ?_⟩
  · exact Flat.isProper_of_compile
      (fun p hp => (hgiven p (List.mem_of_mem_filter hp)).ne_wrapped) hroot
  · exact Filters.sound_of_params (honce.sublist (List.filter_sublist.map _)) hfilters
  · intro hnone
    have hnone : subject.hasFilters = false := hnone
    rw [hnone, Bool.not_false, Bool.and_true, Bool.not_eq_true', Bool.not_eq_false,
      List.isEmpty_iff] at hallowed
    rw [hallowed] at hfilters
    cases hfilters
    rfl

/-- **Whatever callers make, its tree and its filters keep to the language.**  By induction on the
    calls: the calls for sections leave both as they are, and the call with an explicit search
    replaces both. -/
theorem Reachable.sound {s : Search} (h : Reachable s) : SoundQuery s.subject s.root s.filters := by
  induction h with
  | ofParams once given made => exact sound_ofParams once given made
  | ofExplicit given made => exact sound_withExplicit given made
  | setSection _ done ih =>
    obtain ⟨wanted, -, rfl⟩ := map_eq_ok_iff.mp done
    exact ih
  | addSection _ done ih =>
    obtain ⟨wanted, -, done⟩ := bind_eq_ok_iff.mp done
    split at done
    · cases done
    · cases done
      exact ih
  | withExplicit _ given done => exact sound_withExplicit given done

end Search

end NewsSearch
