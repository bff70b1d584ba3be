import NewsSearch.Mapping

/-!
Requested sections.

One request can ask the service for several named sections at once: a listing of articles or events,
which comes in pages, or one of several aggregates.  Each section contributes its own parameters to
the request.  A listing always stands on a page from 1 on and asks for a count between 1 and the
limit of its kind; both are part of its type.

Every section may carry further parameters, which the caller sets and which are sent as they are,
after the section's own.  They are kept as they were given, and so are languages; whether they can
be sent at all is settled when the parameters of the section are asked for.
-/

namespace NewsSearch

/-- What a section or a search is about. -/
inductive Target where
  | articles
  | events
  | event
  /-- Nothing in particular. -/
  | none
  deriving DecidableEq, Repr

/-- The name of a target. -/
def Target.word : Target → String
  | articles => "articles"
  | events => "events"
  | event => "event"
  | none => ""

/-! ## Kinds of sections -/

/-- The kinds of listings. -/
inductive ListingKind where
  | plain
  | articles
  | articleUris
  | events
  | eventUris
  | eventArticles
  deriving DecidableEq, Repr

namespace ListingKind

/-- All kinds of listings. -/
def every : List ListingKind := [plain, articles, articleUris, events, eventUris, eventArticles]

/-- The name under which a listing is asked for. -/
def name : ListingKind → String
  | plain => "ListingResult"
  | articles => "RequestArticlesInfo"
  | articleUris => "RequestArticlesUriWgtList"
  | events => "RequestEventsInfo"
  | eventUris => "RequestEventsUriWgtList"
  | eventArticles => "RequestEventArticles"

/-- The name of the section in requests and responses. -/
def sectionType : ListingKind → String
  | plain => ""
  | articles | eventArticles => "articles"
  | articleUris | eventUris => "uriWgtList"
  | events => "events"

/-- What the listing belongs to. -/
def target : ListingKind → Target
  | plain => .none
  | articles | articleUris => .articles
  | events | eventUris => .events
  | eventArticles => .event

/-- The largest count that may be asked for on one page. -/
def maxCount : ListingKind → Nat
  | articleUris | eventUris => 50000
  | _ => 200

/-- The count that is asked for unless said otherwise. -/
def defaultCount : ListingKind → Nat
  | articleUris | eventUris => 50000
  | _ => 100

/-- The order that is asked for unless said otherwise. -/
def defaultSort : ListingKind → String
  | articleUris => "fq"
  | eventUris => "rel"
  | eventArticles => "cosSim"
  | _ => "date"

theorem defaultCount_pos (k : ListingKind) : 1 ≤ k.defaultCount ∧ k.defaultCount ≤ k.maxCount := by
  cases k <;> decide

end ListingKind

/-- The kinds of aggregates. -/
inductive AggregateKind where
  | plain
  | articleConcepts
  | articleCategories
  | articleSources
  | articleKeywords
  | eventConcepts
  | eventTrends
  | eventCategories
  deriving DecidableEq, Repr

namespace AggregateKind

/-- All kinds of aggregates. -/
def every : List AggregateKind :=
  [plain, articleConcepts, articleCategories, articleSources, articleKeywords, eventConcepts,
    eventTrends, eventCategories]

/-- The name under which an aggregate is asked for. -/
def name : AggregateKind → String
  | plain => "RequestedResult"
  | articleConcepts => "RequestArticlesConceptAggr"
  | articleCategories => "RequestArticlesCategoryAggr"
  | articleSources => "RequestArticlesSourceAggr"
  | articleKeywords => "RequestArticlesKeywordAggr"
  | eventConcepts => "RequestEventsConceptAggr"
  | eventTrends => "RequestEventsConceptTrends"
  | eventCategories => "RequestEventsCategoryAggr"

/-- The name of the section in requests and responses. -/
def sectionType : AggregateKind → String
  | plain => ""
  | articleConcepts | eventConcepts => "conceptAggr"
  | articleCategories | eventCategories => "categoryAggr"
  | articleSources => "sourceAggr"
  | articleKeywords => "keywordAggr"
  | eventTrends => "conceptTrends"

/-- What the aggregate belongs to. -/
def target : AggregateKind → Target
  | plain => .none
  | articleConcepts | articleCategories | articleSources | articleKeywords => .articles
  | eventConcepts | eventTrends | eventCategories => .events

/-- The size of an aggregate, where it has one: the name under which callers set it, the name under
    which it is sent, and what it is unless said otherwise. -/
def size? : AggregateKind → Option (String × String × Int)
  | articleConcepts => some ("concept_count", "conceptAggrConceptCount", 25)
  | eventConcepts => some ("concept_count", "conceptAggrConceptCount", 20)
  | eventTrends => some ("concept_count", "conceptTrendsConceptCount", 10)
  | articleSources => some ("source_count", "sourceAggrSourceCount", 50)
  | articleKeywords => some ("sample_size", "keywordAggrSampleSize", 500)
  | _ => none

end AggregateKind

/-! ## Languages -/

/-- The languages given for a listing.  What counts as false gives none. -/
def languageList (d : Data) : Except Fault (List Data) :=
  if d.truthy then d.elements else .ok []

/-! ## Listings -/

/-- A page of a listing that is asked for. -/
structure Listing where
  kind : ListingKind
  /-- Further parameters, as they are given. -/
  extra : Data
  page : Nat
  count : Nat
  sortBy : Data
  ascending : Data
  /-- The languages of the articles of an event, as they are given. -/
  languages : Data
  page_pos : 1 ≤ page
  count_bounds : 1 ≤ count ∧ count ≤ kind.maxCount

namespace Listing

/-- The first page has a positive number. -/
theorem firstPage_pos : 1 ≤ 1 := Nat.le_refl 1

/-- The listing of a kind as it is asked for unless said otherwise. -/
def standard (kind : ListingKind) : Listing where
  kind := kind
  extra := .null
  page := 1
  count := kind.defaultCount
  sortBy := .text kind.defaultSort
  ascending := .bool false
  languages := .null
  page_pos := firstPage_pos
  count_bounds := kind.defaultCount_pos

/-- A positive integer is a positive number. -/
theorem toNat_pos {p : Int} (h : 1 ≤ p) : 1 ≤ p.toNat := by omega

/-- An integer between bounds is a number between them. -/
theorem toNat_bounds {c : Int} {limit : Nat} (h : 1 ≤ c ∧ c ≤ limit) :
    1 ≤ c.toNat ∧ c.toNat ≤ limit := by omega

/-- The same listing on another page with another count, if both are in range.  The page is checked
    first. -/
def at? (l : Listing) (page count : Data) : Except Fault Listing :=
  match page with
  | .int p =>
    if hp : 1 ≤ p then
      match count with
      | .int c =>
        if hc : 1 ≤ c ∧ c ≤ l.kind.maxCount then
          .ok { l with
            page := p.toNat
            count := c.toNat
            page_pos := toNat_pos hp
            count_bounds := toNat_bounds hc }
        else .error (.value (.countRange l.kind.sectionType l.kind.maxCount))
      | _ => .error (.value (.countType l.kind.sectionType))
    else .error (.value (.page l.kind.sectionType))
  | _ => .error (.value (.page l.kind.sectionType))

/-- The same listing on another page; the count stays when none is given. -/
def withPage (l : Listing) (page count : Data) : Except Fault Listing :=
  l.at? page (match count with
    | .null => .int l.count
    | c => c)

/-- The listing after `done` pages: it stands on the next one. -/
def afterPages (l : Listing) (done : Nat) : Listing :=
  { l with page := done + 1, page_pos := Nat.succ_le_succ (Nat.zero_le done) }

/-- The first item alone, to learn the totals. -/
def firstItem (l : Listing) : Listing :=
  { l with
    page := 1
    count := 1
    page_pos := firstPage_pos
    count_bounds := ⟨Nat.le_refl 1, by cases l.kind <;> decide⟩ }

/-- The parameters of the listing itself.  Only the articles of an event have languages. -/
def ownParams (l : Listing) : Except Fault Record :=
  let name := l.kind.sectionType
  let base : Record := [
    (.text (name ++ "Page"), .int l.page),
    (.text (name ++ "Count"), .int l.count),
    (.text (name ++ "SortByAsc"), l.ascending)]
  let sorted := if l.sortBy.truthy then base ++ [(.text (name ++ "SortBy"), l.sortBy)] else base
  if l.kind = .eventArticles then
    (languageList l.languages).map fun languages =>
      if languages.isEmpty then sorted else sorted ++ [(.text "articlesLang", .list languages)]
  else .ok sorted

end Listing

/-! ## Sections -/

/-- A section that is asked for. -/
inductive Section where
  | aggregate (kind : AggregateKind) (extra : Data) (size : Data)
  | listing (l : Listing)

namespace Section

/-- The name under which the section is asked for. -/
def name : Section → String
  | aggregate kind .. => kind.name
  | listing l => l.kind.name

/-- The name of the section in requests and responses. -/
def sectionType : Section → String
  | aggregate kind .. => kind.sectionType
  | listing l => l.kind.sectionType

/-- What the section belongs to. -/
def target : Section → Target
  | aggregate kind .. => kind.target
  | listing l => l.kind.target

/-- The section's own parameters. -/
def ownParams : Section → Except Fault Record
  | aggregate kind _ size =>
    match kind.size? with
    | some (_, sentName, _) => .ok [(.text sentName, size)]
    | none => .ok []
  | listing l => l.ownParams

/-- The further parameters of the section, as they are given. -/
def extra : Section → Data
  | aggregate _ extra _ => extra
  | listing l => l.extra

/-- What the section contributes to a request: its own parameters, then the further ones. -/
def params (s : Section) : Except Fault Record := do
  let own ← s.ownParams
  let further ← s.extra.optionalEntries
  .ok (own.update further)

end Section

/-! ## Sections from arguments -/

/-- Refuses the first argument whose name is not known; the call may have taken that name for
    itself. -/
def checkNames (call : String) (taken known : List String) (arguments : List (String × Data)) :
    Except Fault Unit :=
  match arguments.find? fun (name, _) => !known.contains name with
  | some (name, _) =>
    .error (.type (if taken.contains name then .takenName call name else .unknownName call name))
  | none => .ok ()

/-- The listing of a kind with the given arguments. -/
def Listing.ofArguments (kind : ListingKind) (arguments : List (String × Data)) :
    Except Fault Listing := do
  let known := ["return_info", "page", "count", "sort_by", "sort_by_asc"] ++
    (if kind = .eventArticles then ["lang"] else [])
  checkNames (kind.name ++ ".__init__") ["self"] known arguments
  let base := Listing.standard kind
  let placed ← base.at? ((arguments.lookup "page").getD (.int base.page))
    ((arguments.lookup "count").getD (.int base.count))
  .ok { placed with
    extra := (arguments.lookup "return_info").getD base.extra
    sortBy := (arguments.lookup "sort_by").getD base.sortBy
    ascending := (arguments.lookup "sort_by_asc").getD base.ascending
    languages := (arguments.lookup "lang").getD base.languages }

/-- The aggregate of a kind with the given arguments. -/
def Section.aggregateOfArguments (kind : AggregateKind) (arguments : List (String × Data)) :
    Except Fault Section := do
  let known := "return_info" :: (kind.size?.map (·.1)).toList
  checkNames (kind.name ++ ".__init__") ["self"] known arguments
  let size := match kind.size? with
    | some (givenName, _, standard) => (arguments.lookup givenName).getD (.int standard)
    | none => .null
  .ok (.aggregate kind ((arguments.lookup "return_info").getD .null) size)

/-- The section asked for under a name with the given arguments; `none` when there is no section of
    that name. -/
def Section.ofArguments? (name : String) (arguments : List (String × Data)) :
    Option (Except Fault Section) :=
  match ListingKind.every.find? (·.name == name) with
  | some kind => some ((Listing.ofArguments kind arguments).map .listing)
  | none =>
    (AggregateKind.every.find? (·.name == name)).map fun kind =>
      Section.aggregateOfArguments kind arguments

end NewsSearch
