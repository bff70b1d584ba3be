import NewsSearch.Paging.Options

/-!
Collecting the results of a search.

A search is run page by page and its items are collected.  A page that fails does not lose what was
collected before it: the outcome holds the items together with the fault.  It also tells how many
batches were delivered, and the total that the service reported last.
-/

namespace NewsSearch

open Number

/-- A search that has been set up to be run, perhaps with a name. -/
structure NamedSearch where
  name : Option String
  search : Search

/-- The name of a search in notes. -/
def NamedSearch.title (n : NamedSearch) : String := n.name.getD "unnamed"

/-- The settings with which searches are collected. -/
structure CollectOptions where
  maxItems : Data
  batchSize : Data
  sortBy : Data
  ascending : Data
  returnInfo : Data

namespace CollectOptions

/-- The settings as they are unless said otherwise. -/
def standard : CollectOptions where
  maxItems := .int (-1)
  batchSize := .int 100
  sortBy := .text "rel"
  ascending := .bool false
  returnInfo := .map []

/-- The settings with the given arguments. -/
def ofArguments (arguments : List (String × Data)) : Except Fault CollectOptions := do
  checkNames "NewsSearchService.__init__" ["self", "client"]
    ["max_items", "batch_size", "sort_by", "sort_by_asc", "return_info"] arguments
  let given (name : String) (standard : Data) : Data := (arguments.lookup name).getD standard
  .ok {
    maxItems := given "max_items" standard.maxItems
    batchSize := given "batch_size" standard.batchSize
    sortBy := given "sort_by" standard.sortBy
    ascending := given "sort_by_asc" standard.ascending
    returnInfo := given "return_info" standard.returnInfo }

/-- The options of the pager that runs over the matches of a search. -/
def pagerOptions (o : CollectOptions) : PagerOptions where
  sortBy := o.sortBy
  ascending := o.ascending
  returnInfo := if o.returnInfo.truthy then o.returnInfo else .null
  batchSize := o.batchSize
  maxItems := o.maxItems
  languages := .null

end CollectOptions

/-- What has been collected for a search. -/
structure Outcome where
  search : NamedSearch
  items : List Record
  /-- The number of batches that were delivered. -/
  pages : Nat
  /-- The total that the service reported. -/
  total : Option Int
  fault : Option PageFault

namespace Outcome

/-- Nothing collected yet. -/
def empty (n : NamedSearch) : Outcome := ⟨n, [], 0, none, none⟩

/-- What has been collected after another batch. -/
def add (o : Outcome) (b : Batch) : Outcome :=
  { o with
    items := o.items ++ b.items
    pages := o.pages + 1
    total := b.total.or o.total
    fault := b.fault.or o.fault }

/-- The note about a batch. -/
def batchNote (n : NamedSearch) (b : Batch) : Note :=
  .main .debug s!"Query {n.title} page={natText b.page} items={natText b.items.length}"

/-- The note about the outcome as a whole. -/
def finalNotes (o : Outcome) : List Note :=
  let items := natText o.items.length
  match o.fault with
  | some fault =>
    [.main .warning
      s!"Query {o.search.title} stopped early: {fault.message} (kept {items} items)"]
  | none =>
    Note.counting [o.total] (.main .info
      (s!"Query {o.search.title} completed: {items} items from " ++
        s!"{natText o.pages} pages (total={Cursor.reportText o.total})"))

/-- Whether no page failed. -/
def isComplete (o : Outcome) : Bool := o.fault.isNone

end Outcome

/-- What collecting gives: the outcome so far, how the pass ended, the notes, and the state
    afterwards. -/
structure Collected (σ : Type) where
  outcome : Outcome
  ending : Ending
  notes : List Note
  state : σ

namespace NamedSearch

variable {σ : Type}

/-- Collects the rest of a pass in at most `fuel` pulls. -/
def collectFrom (d : Dispatcher σ) (p : Pager) :
    Nat → Option Cursor → Outcome → σ → Collected σ
  | 0, _, o, s => ⟨o, .stopped, [], s⟩
  | fuel + 1, pass, o, s =>
    let first := p.pull d pass s
    match first.pulled with
    | .ended => ⟨o, .ended, first.notes ++ o.finalNotes, first.state⟩
    | .broken fault => ⟨o, .broken fault, first.notes, first.state⟩
    | .batch b next =>
      let rest := collectFrom d p fuel next (o.add b) first.state
      { rest with notes := first.notes ++ Outcome.batchNote o.search b :: rest.notes }

/-- The pager that runs over the matches of the search. -/
def pager (n : NamedSearch) (options : CollectOptions) : List Note × Except Fault Pager :=
  Pager.ofSearch n.search.subject (.search n.search) options.pagerOptions

/-- Collects the matches of the search in at most `fuel` pulls. -/
def collect (d : Dispatcher σ) (options : CollectOptions) (fuel : Nat) (n : NamedSearch) (s : σ) :
    Collected σ :=
  match n.pager options with
  | (notes, .error fault) => ⟨.empty n, .broken fault, notes, s⟩
  | (notes, .ok p) =>
    let all := collectFrom d p fuel (some Cursor.start) (.empty n) s
    { all with notes := notes ++ all.notes }

end NamedSearch

end NewsSearch
