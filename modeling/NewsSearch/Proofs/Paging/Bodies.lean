import Mathlib.Data.List.Forall2
import NewsSearch.Proofs.Paging.Bounds
import NewsSearch.Proofs.Paging.Making
import NewsSearch.Proofs.Record

/-!
The bodies of the requests of a pass.

A body is put together by setting keys: the query, the name of the section, the parameters of the
page, and at last the further parameters that the caller gave.  Nothing looks at the names of those,
so each of them takes the place of whatever the pass itself has set under its name.  That is how the
caller asks for more fields in an item, and it is also how the caller can get in the way of paging.

Two things are known of every body, and each of them has its own argument.

1. *What stands under a key.* It is what the caller gave to it, or else what the pass has set there.
   Setting one mapping in another and the result in a third can be looked up in three steps, from
   the last to the first (`Record.get?_update_update`), as long as the parameters of a page have
   different names (`Listing.keysOnce_pageParams`).  Their names come from one short list
   (`Listing.parameterEnds`) behind the name of the section, so this is checked once for that list,
   and so is that none of them is the name of the query or of the section
   (`Listing.get?_pageParams_other`).  Together this is `bodyFor`.
2. *What changes from page to page.* The bodies for two pages are set alike but for the number of
   the page.  Every key that is set keeps two mappings alike (`Record.AlikeExcept.insert`), so they
   stay alike to the end, whatever the further parameters are (`Record.AlikeExcept.update`).

That each request of a pass is the one for its place comes from the loop invariant of passes, and
that its parameters are those of a page from how a pager is made (`MadeFor.values`, `MadeFor.body`).

Main statement: `run_bodies`.  The number of the page is not protected from the caller:
`exists_page_overridden`.
-/

namespace NewsSearch

/-! ## Mappings that are alike but for one key -/

namespace Record

/-- The mappings have the same keys in the same order, and the same values but under the text.  The
    keys need not be different from each other. -/
def AlikeExcept (name : String) (r r' : Record) : Prop :=
  List.Forall₂ (fun e e' => e.1 = e'.1 ∧ (e.1 = .text name ∨ e.2 = e'.2)) r r'

namespace AlikeExcept

variable {name : String} {r r' : Record}

/-- Mappings are alike to themselves. -/
theorem refl (r : Record) : AlikeExcept name r r :=
  List.forall₂_same.mpr fun _ _ => ⟨rfl, Or.inr rfl⟩

/-- Setting a key to the same value keeps the mappings alike. -/
theorem insert (h : AlikeExcept name r r') (key : Scalar) (value : Data) :
    AlikeExcept name (r.insert key value) (r'.insert key value) := by
  induction h with
  | nil => exact refl [(key, value)]
  | @cons e e' rest rest' heq hrest ih =>
    obtain ⟨k, v⟩ := e
    obtain ⟨k', v'⟩ := e'
    obtain ⟨rfl, hvalue⟩ : k = k' ∧ (k = .text name ∨ v = v') := heq
    -- the key is the same in both mappings, so it is found or passed over in both
    rw [Record.insert, Record.insert]
    split
    · exact .cons ⟨rfl, Or.inr rfl⟩ hrest
    · exact .cons ⟨rfl, hvalue⟩ ih

/-- So does setting the one key to any values, which may differ. -/
theorem insert_text (h : AlikeExcept name r r') (value value' : Data) :
    AlikeExcept name (r.insert (.text name) value) (r'.insert (.text name) value') := by
  induction h with
  | nil => exact .cons ⟨rfl, Or.inl rfl⟩ .nil
  | @cons e e' rest rest' heq hrest ih =>
    obtain ⟨k, v⟩ := e
    obtain ⟨k', v'⟩ := e'
    obtain ⟨rfl, hvalue⟩ : k = k' ∧ (k = .text name ∨ v = v') := heq
    rw [Record.insert, Record.insert]
    split
    · next hsame => exact .cons ⟨rfl, Or.inl (Scalar.same_text_iff.mp hsame)⟩ hrest
    · exact .cons ⟨rfl, hvalue⟩ ih

/-- Alike mappings are set in alike mappings, key by key.  An entry under the text may differ, the
    other entries are the same. -/
theorem update {changes changes' : Record} (h : AlikeExcept name r r')
    (hchanges : AlikeExcept name changes changes') :
    AlikeExcept name (r.update changes) (r'.update changes') := by
  induction hchanges generalizing r r' with
  | nil => exact h
  | @cons e e' rest rest' heq _ ih =>
    obtain ⟨k, v⟩ := e
    obtain ⟨k', v'⟩ := e'
    obtain ⟨rfl, hvalue⟩ : k = k' ∧ (k = .text name ∨ v = v') := heq
    rcases hvalue with rfl | rfl
    · exact ih (h.insert_text v v')
    · exact ih (h.insert k v)

/-- Alike mappings have the same keys, in the same order. -/
theorem keys_eq (h : AlikeExcept name r r') : r.keys = r'.keys := by
  induction h with
  | nil => rfl
  | cons heq _ ih => exact congrArg₂ List.cons heq.1 ih

/-- What stands under any other key is the same. -/
theorem find?_eq (h : AlikeExcept name r r') {key : Scalar} (hkey : key ≠ .text name) :
    r.find? key = r'.find? key := by
  induction h with
  | nil => rfl
  | @cons e e' rest rest' heq _ ih =>
    obtain ⟨k, v⟩ := e
    obtain ⟨k', v'⟩ := e'
    obtain ⟨rfl, hvalue⟩ : k = k' ∧ (k = .text name ∨ v = v') := heq
    rw [find?, find?, ih]
    split
    · next hsame =>
      rcases hvalue with rfl | rfl
      · exact absurd (Scalar.text_same_iff.mp hsame) hkey
      · rfl
    · rfl

end AlikeExcept

/-- What stands under a key when these entries are set over it: the last of them with this name, or
    what was there. -/
def givenOr (further : Record) (name : String) (own : Data) : Data :=
  ((ofPairs further).get? name).getD own

end Record

/-! ## The parameters of a page

A listing puts the number of its page first, then the count and what else it asks for.  Only the
first of these depends on the page. -/

namespace Listing

/-- What the names of the parameters of a page end in.  They begin with the name of the section. -/
def parameterEnds : List String := ["Page", "Count", "SortByAsc", "SortBy", "Lang"]

/-- The parameters of a page: its number, the count, and those that are the same on each page. -/
def pageParams (l : Listing) (same : List (String × Data)) (page : Nat) : Record :=
  .ofTexts ((("Page", .int page) :: ("Count", .int l.count) :: same).map fun (suffix, v) =>
    (l.kind.sectionType ++ suffix, v))

/-- Those that say in which order the items come. -/
def orderParams (l : Listing) : List (String × Data) :=
  ("SortByAsc", l.ascending) :: if l.sortBy.truthy then [("SortBy", l.sortBy)] else []

/-- They have one of two lists of names, whatever their values are. -/
theorem names_orderParams (l : Listing) : l.orderParams.map (·.1) = ["SortByAsc"] ∨
    l.orderParams.map (·.1) = ["SortByAsc", "SortBy"] := by
  unfold orderParams
  split
  · exact Or.inr rfl
  · exact Or.inl rfl

/-- The parameters of the listing are those of its page, and the languages where it has some. -/
theorem ownParams_eq (l : Listing) : l.ownParams =
    let params := l.pageParams l.orderParams l.page
    if l.kind = .eventArticles then
      (languageList l.languages).map fun languages =>
        if languages.isEmpty then params else params ++ [(.text "articlesLang", .list languages)]
    else .ok params := by
  unfold ownParams orderParams
  by_cases hsort : l.sortBy.truthy = true <;> simp only [hsort] <;> rfl

/-- All names are those of a page, perhaps with languages behind. -/
theorem names_sublist (l : Listing) {spoken : List (String × Data)}
    (hspoken : spoken.map (·.1) = [] ∨ spoken.map (·.1) = ["Lang"]) :
    ("Page" :: "Count" :: (l.orderParams ++ spoken).map (·.1)).Sublist parameterEnds := by
  rw [List.map_append]
  rcases l.names_orderParams with horder | horder <;> rcases hspoken with hnone | hsome <;>
    simp only [*] <;> decide

/-- When the languages can be run over, every page has parameters, and those behind the number of
    the page are the same on each.  Their names are some of the list, in its order. -/
theorem exists_pageParams (l : Listing)
    (hlanguages : l.kind = .eventArticles → ∃ ds, languageList l.languages = .ok ds) :
    ∃ same : List (String × Data),
      ("Page" :: "Count" :: same.map (·.1)).Sublist parameterEnds ∧
        ∀ done, (l.afterPages done).ownParams = .ok (l.pageParams same (done + 1)) := by
  by_cases hkind : l.kind = .eventArticles
  · obtain ⟨ds, hds⟩ := hlanguages hkind
    -- the languages are looked up once and are the same for every page
    have hown (done : Nat) : (l.afterPages done).ownParams =
        .ok (if ds.isEmpty then l.pageParams l.orderParams (done + 1)
          else l.pageParams l.orderParams (done + 1) ++ [(.text "articlesLang", .list ds)]) := by
      have hall := (l.afterPages done).ownParams_eq
      rw [if_pos (show (l.afterPages done).kind = .eventArticles from hkind),
        show languageList (l.afterPages done).languages = .ok ds from hds] at hall
      exact hall
    -- without languages nothing is added, otherwise they come last
    cases ds with
    | nil =>
      refine ⟨l.orderParams ++ [], l.names_sublist (Or.inl rfl), fun done => ?_⟩
      rw [List.append_nil]
      exact hown done
    | cons d rest =>
      refine ⟨l.orderParams ++ [("Lang", .list (d :: rest))], l.names_sublist (Or.inr rfl),
        fun done => ?_⟩
      rw [hown done, if_neg (by simp)]
      simp [pageParams, Record.ofTexts, hkind, ListingKind.sectionType]
  · refine ⟨l.orderParams ++ [], l.names_sublist (Or.inl rfl), fun done => ?_⟩
    rw [List.append_nil, ownParams_eq]
    exact if_neg hkind

section PageParams

variable {l : Listing} {same : List (String × Data)} {page : Nat}

/-- The parameters of two pages differ in the number of the page. -/
theorem alikeExcept_pageParams (page' : Nat) :
    Record.AlikeExcept (l.kind.sectionType ++ "Page") (l.pageParams same page)
      (l.pageParams same page') :=
  .cons ⟨rfl, Or.inl rfl⟩ (Record.AlikeExcept.refl _)

/-- A parameter stands under its name, which begins with that of the section.  So looking it up
    there is looking up what the name ends in. -/
theorem get?_pageParams (suffix : String) :
    (l.pageParams same page).get? (l.kind.sectionType ++ suffix) =
      (("Page", Data.int page) :: ("Count", .int l.count) :: same).lookup suffix := by
  rw [pageParams]
  generalize ("Page", Data.int page) :: ("Count", .int l.count) :: same = params
  simp only [Record.get?, Record.ofTexts]
  induction params with
  | nil => rfl
  | cons p rest ih =>
    obtain ⟨name, v⟩ := p
    simp only [List.map_cons, Record.find?, ih, Scalar.same_text, List.lookup_cons]
    by_cases hname : name = suffix
    · subst hname
      simp
    -- names that begin alike are the same when their ends are
    · have hne : l.kind.sectionType ++ name ≠ l.kind.sectionType ++ suffix := fun heq =>
        hname ((String.append_right_inj _).mp heq)
      have hother : (suffix == name) = false := beq_eq_false_iff_ne.mpr (Ne.symm hname)
      simp [hne, hother]

/-- Under its name stands the number of the page. -/
theorem get?_pageParams_page :
    (l.pageParams same page).get? (l.kind.sectionType ++ "Page") = some (.int page) := by
  rw [get?_pageParams]
  rfl

/-- The count comes behind it, under another name. -/
theorem get?_pageParams_count :
    (l.pageParams same page).get? (l.kind.sectionType ++ "Count") = some (.int l.count) := by
  rw [get?_pageParams]
  rfl

/-- Nothing stands under a name that is not that of a parameter. -/
theorem get?_pageParams_absent {name : String}
    (hname : ∀ suffix ∈ "Page" :: "Count" :: same.map (·.1), name ≠ l.kind.sectionType ++ suffix) :
    (l.pageParams same page).get? name = none := by
  refine Record.get?_eq_none fun e he heq => ?_
  obtain ⟨named, hnamed, rfl⟩ := List.mem_map.mp he
  obtain ⟨p, hp, rfl⟩ := List.mem_map.mp hnamed
  exact hname p.1 (List.mem_map_of_mem hp) (Scalar.text.inj heq).symm

variable (hsame : ("Page" :: "Count" :: same.map (·.1)).Sublist parameterEnds)
include hsame

/-- No two parameters of a page have the same name. -/
theorem keysOnce_pageParams : (l.pageParams same page).KeysOnce := by
  have honce : parameterEnds.Nodup := by decide
  have hpairs : (("Page", Data.int page) :: ("Count", .int l.count) :: same).Pairwise
      fun a b => a.1 ≠ b.1 := List.pairwise_map.mp (hsame.nodup honce)
  refine Record.keysOnce_ofTexts (List.pairwise_map.mpr (List.pairwise_map.mpr (hpairs.imp ?_)))
  intro a b hne heq
  exact hne ((String.append_right_inj _).mp heq)

/-- No parameter of a page has the name of anything else in a body. -/
theorem get?_pageParams_other {name : String} (hname : name ∈ ["query", "eventUri", "resultType"]) :
    (l.pageParams same page).get? name = none := by
  -- there are few names of sections and few ends, so all of them can be looked at
  have hall : ∀ type ∈ ["", "articles", "events", "uriWgtList"],
      ∀ name ∈ ["query", "eventUri", "resultType"], ∀ suffix ∈ parameterEnds,
        name ≠ type ++ suffix := by decide
  have htype : l.kind.sectionType ∈ ["", "articles", "events", "uriWgtList"] := by
    cases l.kind <;> decide
  exact get?_pageParams_absent fun suffix hsuffix =>
    hall _ htype name hname suffix (hsame.subset hsuffix)

end PageParams

end Listing

/-! ## Bodies

A query is stated under one key, and everything else in a body is about the section. -/

/-- How a query is stated in a body: the key, and what stands under it.  A search is stated by its
    compiled document as a text, and a look-up by the name of the event. -/
def Query.stated : Query → Except Fault (String × String)
  | .search s => s.documentText.map fun text => ("query", text)
  | .lookup l => .ok ("eventUri", l.uri)

/-- The body for a listing is the statement of the query and the name of the section, with the
    parameters set over them.  For both kinds of queries this is the general way of making a body,
    at one section. -/
theorem Query.body_listing (q : Query) (l : Listing) :
    q.body [.listing l] = q.stated.bind fun (key, text) =>
      (Section.listing l).params.map fun params => (Record.ofTexts
        [(key, .text text), ("resultType", .text l.kind.sectionType)]).update params := by
  cases q with
  | search s =>
    simp only [body, Search.body, stated]
    cases s.documentText with
    | error fault => rfl
    | ok text =>
      simp only [bind, Except.bind, Except.map, requestBody, Data.gathered_map,
        requestBody.withParams, List.isEmpty_cons, Bool.false_eq_true, if_false]
      cases (Section.listing l).params <;> rfl
  | lookup l =>
    simp only [body, Lookup.body, stated, bind, Except.bind, Except.map, requestBody,
      Data.gathered_map, requestBody.withParams, List.isEmpty_cons, Bool.false_eq_true, if_false]
    cases (Section.listing _).params <;> rfl

/-- **Three layers.** Under a key of a mapping that is set in a mapping, with further entries over
    it, stands what the further entries have there, or else what the mapping has, or else what was
    there. -/
theorem Record.get?_update_update {base own further : Record} (hown : own.KeysOnce)
    {name : String} : (base.update (own.update further)).get? name =
      ((ofPairs further).get? name).or ((own.get? name).or (base.get? name)) := by
  have honce : ofPairs (own.update further) = own.update further := ofPairs_eq_self hown.update
  rw [get?_update, honce, get?_update, Option.or_assoc]

namespace Pager

variable {σ : Type}

/-- The pager was made with these options to run over a listing of this kind, and in its requests
    the query is to be stated like this.  For a search the statement may fail, when its document has
    an integer that is too long to be written. -/
inductive MadeFor (options : PagerOptions) (p : Pager) :
    ListingKind → Except Fault (String × String) → Prop
  | search {subject : Subject} {s : Search}
      (made : (ofSearch subject (.search s) options).2 = .ok p) :
      MadeFor options p subject.listingKind (s.documentText.map fun text => ("query", text))
  | event {uri : Data} {l : Lookup} (named : Lookup.make uri (.other (.data .null)) = .ok l)
      (made : (ofEvent uri options).2 = .ok p) :
      MadeFor options p .eventArticles (.ok ("eventUri", l.uri))

/-- The body for a page of a listing of this kind: the query as it is stated, the name of the
    section, the number of the page and the batch size.  The further parameters are there as they
    were given, and take the place of any of these. -/
structure BodyFor (options : PagerOptions) (kind : ListingKind) (key text : String)
    (further : Record) (page : Nat) (body : Record) : Prop where
  given : ∀ name v, (Record.ofPairs further).get? name = some v → body.get? name = some v
  query : body.get? key = some (further.givenOr key (.text text))
  resultType : body.get? "resultType" = some (further.givenOr "resultType" (.text kind.sectionType))
  page : body.get? (kind.sectionType ++ "Page") =
    some (further.givenOr (kind.sectionType ++ "Page") (.int page))
  count : ∃ batch : Int, options.batchSize = .int batch ∧ 1 ≤ batch ∧
    body.get? (kind.sectionType ++ "Count") =
      some (further.givenOr (kind.sectionType ++ "Count") (.int (min batch maxBatchSize)))

variable {options : PagerOptions} {p : Pager} {kind : ListingKind}
  {stated : Except Fault (String × String)}

/-- The languages that a pager is made with can be run over. -/
theorem languageList_of_languagesOf {given languages : Data}
    (h : languagesOf given = .ok languages) : ∃ ds, languageList languages = .ok ds := by
  have htuple (items : List Data) : ∃ ds, languageList (.tuple items) = .ok ds := by
    unfold languageList
    split
    · exact ⟨items, rfl⟩
    · exact ⟨[], rfl⟩
  unfold languagesOf at h
  split at h
  · cases h
    exact htuple []
  · cases h
    exact htuple _
  · split at h
    · cases h
      exact htuple _
    · cases h

/-- What a pager has from its options: its query, its listing with the further parameters as they
    were given, languages that can be run over, and as its count the batch size, cut to the greatest
    one. -/
theorem MadeFor.values (made : MadeFor options p kind stated) :
    p.query.stated = stated ∧ p.listing.kind = kind ∧ p.listing.extra = options.returnInfo ∧
      (p.listing.kind = .eventArticles → ∃ ds, languageList p.listing.languages = .ok ds) ∧
      ∃ batch : Int, options.batchSize = .int batch ∧ 1 ≤ batch ∧
        (p.listing.count : Int) = min batch maxBatchSize := by
  -- a batch size is accepted as an integer only
  have hclamp {size : BatchSize} (h : (BatchSize.clamp options.batchSize).2 = .ok size) :
      ∃ batch : Int, options.batchSize = .int batch ∧ 1 ≤ batch ∧
        (size.size : Int) = min batch maxBatchSize := by
    have hint : ∃ batch : Int, options.batchSize = .int batch := by
      unfold BatchSize.clamp at h
      split at h
      · next batch hbatch => exact ⟨batch, hbatch⟩
      · cases h
    obtain ⟨batch, hbatch⟩ := hint
    rw [hbatch] at h
    obtain ⟨hpos, hsize⟩ := clamp_eq_ok_iff.mp h
    exact ⟨batch, hbatch, hpos, by rw [hsize]; omega⟩
  cases made with
  | @search subject s made =>
    simp only [ofSearch] at made
    split at made
    · simp only [bind_eq_ok_iff] at made
      obtain ⟨size, hsize, limit, -, made⟩ := made
      cases made
      refine ⟨rfl, rfl, rfl, fun hkind => ?_, hclamp hsize⟩
      cases subject <;> cases hkind
    · cases made
  | @event uri l named made =>
    simp only [ofEvent] at made
    split at made
    · cases made
    · next languages hlanguages =>
      simp only [bind_eq_ok_iff] at made
      obtain ⟨size, hsize, lookup, hlookup, limit, -, made⟩ := made
      rw [named] at hlookup
      cases hlookup
      cases made
      exact ⟨rfl, rfl, rfl, fun _ => languageList_of_languagesOf hlanguages, hclamp hsize⟩

/-- The listing of a search comes in the order that the options say. -/
theorem order_of_ofSearch {subject : Subject} {q : Query}
    (made : (ofSearch subject q options).2 = .ok p) :
    p.query = q ∧ p.listing.sortBy = options.sortBy ∧ p.listing.ascending = options.ascending := by
  unfold ofSearch at made
  split at made
  · split at made
    · simp only [bind_eq_ok_iff] at made
      obtain ⟨size, -, limit, -, made⟩ := made
      cases made
      exact ⟨rfl, rfl, rfl⟩
    · cases made
  · cases made

/-- A query is stated under one of two keys. -/
theorem MadeFor.key_mem (made : MadeFor options p kind stated) {key text : String}
    (hstated : stated = .ok (key, text)) : key ∈ ["query", "eventUri"] := by
  cases made with
  | search _ =>
    obtain ⟨_, -, heq⟩ := map_eq_ok_iff.mp hstated
    cases heq
    exact List.mem_cons_self
  | event _ _ =>
    cases hstated
    exact List.mem_cons_of_mem _ List.mem_cons_self

/-- The body for a page, when the query can be stated: the query and the name of the section, then
    the parameters of the page, then the further ones. -/
theorem MadeFor.body (made : MadeFor options p kind stated) {further : Record}
    (hinfo : options.returnInfo.optionalEntries = .ok further) :
    ∃ same : List (String × Data),
      ("Page" :: "Count" :: same.map (·.1)).Sublist Listing.parameterEnds ∧
      ∀ done, (p.request done).1.body [(p.request done).2] = stated.map fun (key, text) =>
        (Record.ofTexts [(key, .text text), ("resultType", .text kind.sectionType)]).update
          ((p.listing.pageParams same (done + 1)).update further) := by
  obtain ⟨hstated, hkind, hextra, hlanguages, -⟩ := made.values
  obtain ⟨same, hnames, hown⟩ := p.listing.exists_pageParams hlanguages
  refine ⟨same, hnames, fun done => ?_⟩
  -- each page has the parameters of its own, with the further ones over them
  have hparams : (Section.listing (p.listing.afterPages done)).params =
      .ok ((p.listing.pageParams same (done + 1)).update further) := by
    have hfurther : (p.listing.afterPages done).extra.optionalEntries = .ok further := by
      rw [← hinfo, ← hextra]
      rfl
    simp only [Section.params, Section.ownParams, Section.extra, hown, hfurther, bind, Except.bind]
  rw [request, Query.body_listing, hstated, hparams]
  subst hkind
  cases stated <;> rfl

/-- What stands in a body that is set like that.  Each of the values is found in the layer that it
    comes from, since the other layers have nothing under its name. -/
theorem bodyFor {l : Listing} {same : List (String × Data)} {key text : String} {further : Record}
    {page : Nat} (hnames : ("Page" :: "Count" :: same.map (·.1)).Sublist Listing.parameterEnds)
    (hkey : key ∈ ["query", "eventUri"])
    (hcount : ∃ batch : Int, options.batchSize = .int batch ∧ 1 ≤ batch ∧
      (l.count : Int) = min batch maxBatchSize) :
    BodyFor options l.kind key text further page
      ((Record.ofTexts [(key, .text text), ("resultType", .text l.kind.sectionType)]).update
        ((l.pageParams same page).update further)) := by
  have honce : (l.pageParams same page).KeysOnce := Listing.keysOnce_pageParams hnames
  have hother {name : String} (hname : name ∈ ["query", "eventUri", "resultType"]) :
      (l.pageParams same page).get? name = none := Listing.get?_pageParams_other hnames hname
  have hkey' : key ∈ ["query", "eventUri", "resultType"] := List.mem_append_left ["resultType"] hkey
  have hne : key ≠ "resultType" := by
    rintro rfl
    exact absurd hkey (by decide)
  -- what stands there without the further parameters
  have hgivenOr {name : String} {v : Data} (hv : ((l.pageParams same page).get? name).or
      (Record.get? name (Record.ofTexts
        [(key, .text text), ("resultType", .text l.kind.sectionType)])) = some v) :
      Record.get? name ((Record.ofTexts
        [(key, .text text), ("resultType", .text l.kind.sectionType)]).update
          ((l.pageParams same page).update further)) = some (further.givenOr name v) := by
    rw [Record.get?_update_update honce, hv, Option.or_some]
    rfl
  constructor
  · intro name v hgiven
    rw [Record.get?_update_update honce, hgiven, Option.some_or]
  · -- the query, which is stated in the lowest layer
    refine hgivenOr ?_
    rw [hother hkey']
    simp [Record.ofTexts, Record.get?, Record.find?]
  · -- the name of the section, stated next to it
    refine hgivenOr ?_
    rw [hother (by decide)]
    simp [Record.ofTexts, Record.get?, Record.find?, hne]
  · -- the number of the page, among the parameters
    refine hgivenOr ?_
    rw [Listing.get?_pageParams_page, Option.some_or]
  · -- and the count
    obtain ⟨batch, hbatch, hpos, hcount⟩ := hcount
    refine ⟨batch, hbatch, hpos, hgivenOr ?_⟩
    rw [Listing.get?_pageParams_count, Option.some_or, hcount]

/-- **Bodies of a pass.** Every request of a pass asks for its page.  The requests have bodies when
    the query can be stated; then the `j`-th body has the query, the name of the section, `j` as the
    number of the page and the clamped batch size, unless the caller gave something else under the
    same name.  Any two bodies of the pass have the same keys in the same order, and differ in the
    number of the page at most. -/
theorem run_bodies (made : MadeFor options p kind stated) {further : Record}
    (hinfo : options.returnInfo.optionalEntries = .ok further) (d : Dispatcher σ) (s : σ)
    (most : Nat) :
    (∀ i request, (p.requestsIn d most s)[i]? = some request →
      (∀ fault, stated = .error fault → request.1.body [request.2] = .error fault) ∧
      ∀ key text, stated = .ok (key, text) → ∃ body, request.1.body [request.2] = .ok body ∧
        BodyFor options kind key text further (i + 1) body) ∧
    ∀ first ∈ p.requestsIn d most s, ∀ second ∈ p.requestsIn d most s, ∀ a b : Record,
      first.1.body [first.2] = .ok a → second.1.body [second.2] = .ok b →
        a.keys = b.keys ∧
          ∀ key, key ≠ .text (kind.sectionType ++ "Page") → a.find? key = b.find? key := by
  obtain ⟨same, hnames, hbody⟩ := made.body hinfo
  obtain ⟨-, hkind, -, -, batch, hbatch, hpos, hcount⟩ := made.values
  have hconsecutive := p.requestsIn_consecutive d s most
  subst hkind
  constructor
  · intro i request hi
    -- the request at place `i` is the one for page `i + 1`
    obtain rfl : request = p.request i := by
      rw [hconsecutive, List.getElem?_map] at hi
      obtain ⟨j, hj, hrequest⟩ := Option.map_eq_some_iff.mp hi
      obtain ⟨hlt, hji⟩ := List.getElem?_eq_some_iff.mp hj
      rw [List.getElem_range] at hji
      rw [← hrequest, ← hji]
    rw [hbody i]
    constructor
    · rintro fault rfl
      rfl
    · rintro key text rfl
      exact ⟨_, rfl, bodyFor hnames (made.key_mem rfl) ⟨batch, hbatch, hpos, hcount⟩⟩
  · intro first hfirst second hsecond a b ha hb
    rw [hconsecutive] at hfirst hsecond
    obtain ⟨i, -, rfl⟩ := List.mem_map.mp hfirst
    obtain ⟨j, -, rfl⟩ := List.mem_map.mp hsecond
    rw [hbody] at ha hb
    obtain ⟨⟨key, text⟩, hstated, rfl⟩ := map_eq_ok_iff.mp ha
    rw [hstated] at hb
    cases hb
    -- the bodies are set alike, key by key
    have hparams : Record.AlikeExcept (p.listing.kind.sectionType ++ "Page")
        ((p.listing.pageParams same (i + 1)).update further)
        ((p.listing.pageParams same (j + 1)).update further) :=
      (Listing.alikeExcept_pageParams (j + 1)).update (.refl further)
    have halike := (Record.AlikeExcept.refl (Record.ofTexts
      [(key, .text text), ("resultType", .text p.listing.kind.sectionType)])).update hparams
    exact ⟨halike.keys_eq, fun key hkey => halike.find?_eq hkey⟩

/-- Options for one article on a page, with further parameters. -/
def singlyWith (further : List (String × Data)) : PagerOptions :=
  { (PagerKind.search .articles).standardOptions with
    batchSize := .int 1
    returnInfo := .map (Record.ofTexts further) }

/-- A pager with these options, over all articles. -/
def pagerWith (further : List (String × Data)) : Pager :=
  { oneByOne none with
    listing := { (oneByOne none).listing with extra := .map (Record.ofTexts further) } }

/-- The answers with two articles, each on a page of its own. -/
def twoPages : List Answer :=
  [.articles [.ofTexts [("uri", .text "a")]] (some 2) none,
    .articles [.ofTexts [("uri", .text "b")]] (some 2) none]

/-- It is made for the query that is stated as a text, and runs over two pages. -/
theorem madeFor_pagerWith (further : List (String × Data)) :
    (∃ text, MadeFor (singlyWith further) (pagerWith further) .articles (.ok ("query", text))) ∧
      (pagerWith further).requestsIn .replay 3 twoPages =
        [(pagerWith further).request 0, (pagerWith further).request 1] := by
  obtain ⟨text, htext⟩ : ∃ text, (Search.unrestricted .articles).documentText = .ok text :=
    ok_of_isSome (by decide +kernel)
  have hmade : MadeFor (singlyWith further) (pagerWith further) Subject.articles.listingKind
      ((Search.unrestricted .articles).documentText.map fun text => ("query", text)) := .search rfl
  rw [htext] at hmade
  exact ⟨⟨text, hmade⟩, rfl⟩

/-- The length of the texts is a further parameter: page 2 is asked for with it. -/
theorem run_bodies_second_page :
    ∃ text body, BodyFor (singlyWith [("articleBodyLen", .int 300)]) .articles "query" text
      [(.text "articleBodyLen", .int 300)] 2 body ∧ body.get? "articlesPage" = some (.int 2) ∧
        body.get? "articleBodyLen" = some (.int 300) := by
  obtain ⟨⟨text, hmade⟩, hrequests⟩ := madeFor_pagerWith [("articleBodyLen", .int 300)]
  have hinfo : (singlyWith [("articleBodyLen", .int 300)]).returnInfo.optionalEntries =
      .ok [(.text "articleBodyLen", .int 300)] := rfl
  have hpage := (run_bodies hmade hinfo .replay twoPages 3).1 1
  rw [hrequests] at hpage
  obtain ⟨body, -, hbody⟩ := (hpage _ rfl).2 "query" text rfl
  exact ⟨text, body, hbody, hbody.page, hbody.given "articleBodyLen" (.int 300) rfl⟩

/-- A further parameter with the name of the page number takes its place: page 2 of this pass is
    asked for as page 1 again. -/
theorem exists_page_overridden :
    ∃ (further : List (String × Data)) (text : String) (request : Query × Section) (body : Record),
      MadeFor (singlyWith further) (pagerWith further) .articles (.ok ("query", text)) ∧
      ((pagerWith further).requestsIn .replay 3 twoPages)[1]? = some request ∧
      request.1.body [request.2] = .ok body ∧ body.get? "articlesPage" = some (.int 1) := by
  obtain ⟨⟨text, hmade⟩, hrequests⟩ := madeFor_pagerWith [("articlesPage", .int 1)]
  let further : Record := [(.text "articlesPage", .int 1)]
  have hinfo : (singlyWith [("articlesPage", .int 1)]).returnInfo.optionalEntries = .ok further :=
    rfl
  obtain ⟨same, hnames, hbody⟩ := hmade.body hinfo
  obtain ⟨-, hkind, -, -, hcount⟩ := hmade.values
  have hthere : BodyFor _ _ "query" text further 2 _ :=
    bodyFor hnames (hmade.key_mem rfl) hcount
  rw [hkind] at hthere
  refine ⟨_, text, _, _, hmade, ?_, hbody 1, hthere.given "articlesPage" (.int 1) rfl⟩
  rw [hrequests]
  rfl

end Pager

end NewsSearch
