import NewsSearch.Paging.Pager

/-!
Pagers from options.

A pager runs over the articles or events that match a search, or over the articles of one event.
Its options say how the listing is sorted, what is returned for an item, how many items come on a
page, and how many are wanted in all.  The service serves no more than 200 items on a page, so a
larger batch size is lowered to that, which is noted.
-/

namespace NewsSearch

open Number

/-- The options of a pager, as they are given. -/
structure PagerOptions where
  sortBy : Data
  ascending : Data
  returnInfo : Data
  batchSize : Data
  maxItems : Data
  /-- The languages of the articles of an event. -/
  languages : Data

/-- What a pager runs over. -/
inductive PagerKind where
  /-- The matches of a search. -/
  | search (subject : Subject)
  /-- The articles of an event. -/
  | eventArticles
  deriving DecidableEq, Repr

namespace PagerKind

/-- The name of the pagers of a kind. -/
def name : PagerKind → String
  | search .articles => "QueryArticlesIter"
  | search .events => "QueryEventsIter"
  | eventArticles => "QueryEventArticlesIter"

/-- The options as they are unless said otherwise. -/
def standardOptions (kind : PagerKind) : PagerOptions where
  sortBy := .text (if kind = .eventArticles then "cosSim" else "rel")
  ascending := .bool false
  returnInfo := .null
  batchSize := .int (if kind = .search .events then 50 else 100)
  maxItems := .int (-1)
  languages := .null

/-- The names of the options. -/
def optionNames (kind : PagerKind) : List String :=
  ["sort_by", "sort_by_asc", "return_info", "batch_size", "max_items"] ++
    (if kind = .eventArticles then ["lang"] else [])

/-- The names that making a pager takes for itself. -/
def takenNames (kind : PagerKind) : List String :=
  ["self", "client", if kind = .eventArticles then "event_uri" else "query"]

/-- The options with the given arguments. -/
def options (kind : PagerKind) (arguments : List (String × Data)) : Except Fault PagerOptions := do
  checkNames (kind.name ++ ".__init__") kind.takenNames kind.optionNames arguments
  let base := kind.standardOptions
  let given (name : String) (standard : Data) : Data := (arguments.lookup name).getD standard
  .ok {
    sortBy := given "sort_by" base.sortBy
    ascending := given "sort_by_asc" base.ascending
    returnInfo := given "return_info" base.returnInfo
    batchSize := given "batch_size" base.batchSize
    maxItems := given "max_items" base.maxItems
    languages := given "lang" base.languages }

end PagerKind

/-! ## Checked options -/

/-- The most items that the service serves on a page. -/
def maxBatchSize : Nat := 200

/-- A number of items that fits on a page. -/
structure BatchSize where
  size : Nat
  bounds : 1 ≤ size ∧ size ≤ maxBatchSize

/-- The largest batch size is one. -/
theorem BatchSize.max_bounds : 1 ≤ maxBatchSize ∧ maxBatchSize ≤ maxBatchSize := by decide

/-- A number that is neither below one nor above the largest batch size is a batch size. -/
theorem BatchSize.toNat_bounds {n : Int} (low : ¬n < 1) (high : ¬(maxBatchSize : Int) < n) :
    1 ≤ n.toNat ∧ n.toNat ≤ maxBatchSize := by omega

/-- The batch size given, lowered to what the service serves; lowering it is noted. -/
def BatchSize.clamp (given : Data) : List Note × Except Fault BatchSize :=
  match given with
  | .int n =>
    if low : n < 1 then ([], .error (.value .batchSize))
    else if high : (maxBatchSize : Int) < n then
      ([.paging .warning
        s!"batch_size {intText n} exceeds the service maximum; using {natText maxBatchSize}"],
        .ok ⟨maxBatchSize, BatchSize.max_bounds⟩)
    else ([], .ok ⟨n.toNat, BatchSize.toNat_bounds low high⟩)
  | _ => ([], .error (.value .batchSize))

/-- The limit given: -1 for none, or how many items. -/
def Limit.ofData (given : Data) : Except Fault Limit :=
  match given with
  | .int n =>
    if n < -1 then .error (.value .itemLimit)
    else if n = -1 then .ok none
    else .ok (some n.toNat)
  | _ => .error (.value .itemLimit)

/-- The languages given, as a tuple: none, a single one, or several. -/
def languagesOf (given : Data) : Except Fault Data :=
  match given with
  | .null => .ok (.tuple [])
  | .text s => .ok (.tuple [.text s])
  | d =>
    match d.elements? with
    | some ds => .ok (.tuple ds)
    | none => .error (.type (.notIterable d.fullTypeName))

/-! ## Making pagers -/

namespace Pager

/-- A batch size fits a listing that is served in pages of the largest batch size. -/
theorem fits {kind : ListingKind} (paged : kind.maxCount = maxBatchSize) (size : BatchSize) :
    1 ≤ size.size ∧ size.size ≤ kind.maxCount := by
  rw [paged]; exact size.bounds

/-- The listing of a kind that serves the matches of searches or the articles of an event. -/
def listingOf (kind : ListingKind) (paged : kind.maxCount = maxBatchSize) (size : BatchSize)
    (options : PagerOptions) (languages : Data) : Listing where
  kind := kind
  extra := options.returnInfo
  page := 1
  count := size.size
  sortBy := options.sortBy
  ascending := options.ascending
  languages := languages
  page_pos := Listing.firstPage_pos
  count_bounds := fits paged size

theorem maxCount_listingKind (subject : Subject) : subject.listingKind.maxCount = maxBatchSize := by
  cases subject <;> rfl

/-- A pager over the matches of a search. -/
def ofSearch (subject : Subject) (query : Query) (options : PagerOptions) :
    List Note × Except Fault Pager :=
  match query with
  | .search s =>
    if s.subject = subject then
      let (notes, size) := BatchSize.clamp options.batchSize
      (notes, do
        let size ← size
        let limit ← Limit.ofData options.maxItems
        let listing := listingOf subject.listingKind (maxCount_listingKind subject) size options
          .null
        .ok ⟨query, listing, limit, none⟩)
    else ([], .error (wrongSearch query))
  | _ => ([], .error (wrongSearch query))
where
  /-- The fault of running over a query of another kind. -/
  wrongSearch (query : Query) : Fault :=
    .type (.wrongSearch (PagerKind.search subject).name subject.searchName query.typeName)

/-- A pager over the articles of the event with this URI. -/
def ofEvent (uri : Data) (options : PagerOptions) : List Note × Except Fault Pager :=
  match languagesOf options.languages with
  | .error fault => ([], .error fault)
  | .ok languages =>
    let (notes, size) := BatchSize.clamp options.batchSize
    (notes, do
      let size ← size
      let lookup ← Lookup.make uri (.other (.data .null))
      let limit ← Limit.ofData options.maxItems
      let listing := listingOf .eventArticles rfl size options languages
      .ok ⟨.lookup { lookup with sections := [.listing listing] }, listing, limit, none⟩)

end Pager

end NewsSearch
