import NewsSearch.Query.Document
import NewsSearch.Query.Flat
import NewsSearch.Section.Requested

/-!
Searches given as a tree or as a document.

An explicit search is for articles or for events.  Its tree is given as such, as a document, or as
the JSON text of one.  Filters may come from the document and from parameters; a parameter replaces
the document's setting.  Searches for events have no filters: they take a parameter for all filters
together, but only one that holds none.
-/

namespace NewsSearch

/-- What a search looks for. -/
inductive Subject where
  | articles
  | events
  deriving DecidableEq, Repr

namespace Subject

/-- The target of sections that belong to the search. -/
def target : Subject → Target
  | articles => .articles
  | events => .events

/-- The name of flat searches in messages. -/
def searchName : Subject → String
  | articles => "QueryArticles"
  | events => "QueryEvents"

/-- The name of explicit searches in messages. -/
def explicitName : Subject → String
  | articles => "ComplexArticleQuery"
  | events => "ComplexEventQuery"

/-- The path of the service that answers the search. -/
def path : Subject → String
  | articles => "/api/v1/article/getArticles"
  | events => "/api/v1/event/getEvents"

/-- The listing that is asked for unless said otherwise. -/
def listingKind : Subject → ListingKind
  | articles => .articles
  | events => .events

/-- Whether searches take filters. -/
def hasFilters : Subject → Bool
  | articles => true
  | events => false

/-- What flat searches may use. -/
def scope : Subject → Flat.Scope
  | articles => ⟨true, false⟩
  | events => ⟨true, true⟩

end Subject

/-- A search given as a tree or as a document. -/
structure Explicit where
  subject : Subject
  root : Node
  filters : Filters

namespace Explicit

/-- The name under which searches for events are given all filters together. -/
def filtersParam : String := "filters"

/-- Refuses parameters that an explicit search of this kind does not have. -/
def checkNames (subject : Subject) (params : Params) : Except Fault Unit :=
  let (call, known) : String × List String := match subject with
    | .articles => ("ComplexArticleQuery.__init__", Filters.params.map (·.1))
    | .events => ("_ExplicitQuery.__init__", [filtersParam])
  match params.find? fun (name, _) => !known.contains name with
  | some (name, _) =>
    .error (.type (if name = "self" ∨ name = "query" then .takenName call name
      else .unknownName call name))
  | none => .ok ()

/-- The tree and the filters that a query argument holds. -/
def read (query : Argument) : Except Fault (Node × Filters) :=
  match query with
  | .node root => .ok (root, [])
  | .data source => (ParsedDocument.parse source).map fun p => (p.root, p.filters)
  | _ => .error (.document .notAnObject)

/-- Whether an argument holds filters: a mapping or a list of entries does, unless it is empty. -/
def holdsFilters (a : Argument) : Except Fault Bool :=
  if !a.truthy then .ok false
  else if a.entries?.isSome then .ok true
  else
    match a.elements? with
    | some elements => (Argument.checkEntries 0 elements).map fun _ => true
    | none => .error (.type (.notIterable a.fullTypeName))

/-- The explicit search for the query, with filters from parameters. -/
def make (subject : Subject) (query : Argument) (params : Params) : Except Fault Explicit := do
  checkNames subject params
  let given ← Filters.ofParams (Filters.params.filterMap fun (name, _) =>
    (params.lookup name).map fun a => (name, a))
  let (root, own) ← read query
  let filters := own.update given
  let further ← holdsFilters (params.getD filtersParam)
  if (further || !filters.isEmpty) && !subject.hasFilters then
    .error (.document (.filtersNotSupported subject.explicitName))
  else .ok ⟨subject, root, filters⟩

/-- The compiled document of the search. -/
def document (e : Explicit) : Record := compiled (some e.root) e.filters.document

end Explicit

end NewsSearch
