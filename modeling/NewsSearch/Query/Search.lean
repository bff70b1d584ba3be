import NewsSearch.Query.Explicit

/-!
Searches and look-ups that can be sent to the service.

A `Search` has a tree, filters and the sections that are asked for.  It is made from parameters or
from an explicit search, and its sections can be replaced or extended afterwards.  A `Lookup` asks
for the articles of one event.  Both become the body of a request.

The sections of a search always belong to what it looks for, and no two have the same name in the
response.
-/

namespace NewsSearch

/-- Something offered as a section: a section, or another argument. -/
inductive Offer where
  | of (s : Section)
  | other (a : Argument)

/-- A search for articles or events. -/
structure Search where
  subject : Subject
  root : Option Node
  filters : Filters
  sections : List Section

/-- What an explicit search may be given as. -/
inductive ExplicitSource where
  | explicit (e : Explicit)
  | query (a : Argument)

/-- A look-up of the articles of one event. -/
structure Lookup where
  uri : String
  sections : List Section

/-- What can be sent to the service. -/
inductive Query where
  | search (s : Search)
  | lookup (l : Lookup)

/-! ## Request bodies -/

/-- The names of the sections: alone for one section, as a list for several. -/
def resultTypes : List Section → Data
  | [s] => .text s.sectionType
  | ss => .list (ss.map fun s => .text s.sectionType)

/-- The body of a request: the entries of the base, the names of the sections, and the parameters of
    each section, later ones replacing earlier ones. -/
def requestBody (base : Data) (sections : List Section) : Except Fault Record :=
  if sections.isEmpty then .error (.value .noSections)
  else do
    let entries ← base.gathered
    withParams (entries.set "resultType" (resultTypes sections)) sections
where
  /-- The body with the parameters of each of the sections. -/
  withParams (body : Record) : List Section → Except Fault Record
    | [] => .ok body
    | s :: rest => do
      let params ← s.params
      withParams (body.update params) rest

namespace Search

/-! ## Sections -/

/-- The section offered, if it belongs to what the search looks for. -/
def checkOffer (subject : Subject) (offer : Offer) : Except Fault Section :=
  match offer with
  | .of s =>
    if s.target = subject.target then .ok s
    else .error (.value (.foreignSection s.name subject.searchName))
  | .other a => .error (.type (.notSection a.typeName))

/-- Asks for the offered section alone. -/
def setSection (s : Search) (offer : Offer) : Except Fault Search :=
  (checkOffer s.subject offer).map fun wanted => { s with sections := [wanted] }

/-- Asks for the offered section as well. -/
def addSection (s : Search) (offer : Offer) : Except Fault Search := do
  let wanted ← checkOffer s.subject offer
  if s.sections.any fun other => other.sectionType = wanted.sectionType then
    .error (.value (.repeatedSection wanted.sectionType))
  else .ok { s with sections := s.sections ++ [wanted] }

/-- The listing that is asked for unless said otherwise. -/
def standardSection (subject : Subject) : Section :=
  .listing (Listing.standard subject.listingKind)

/-- What is asked for when `offer` is given: an offer that counts as false stands for the usual
    listing. -/
def offerOrStandard (subject : Subject) (offer : Offer) : Offer :=
  match offer with
  | .of s => .of s
  | .other a => if a.truthy then .other a else .of (standardSection subject)

/-! ## Making searches -/

/-- The name under which callers offer a section. -/
def offerParam : String := "requested_result"

/-- The search with the given parameters and the offered section; the parameters must not offer one
    as well. -/
def ofParams (subject : Subject) (params : Params) (offer : Offer) : Except Fault Search := do
  if params.any fun (name, _) => name = offerParam then
    .error (.type (.repeatedName subject.searchName offerParam))
  if params.any fun (name, _) => name = "self" then
    .error (.type (.takenName "_FlatQuery.__init__" "self"))
  let isFilter (entry : String × Argument) : Bool := (Filters.params.lookup entry.1).isSome
  let filterParams := params.filter isFilter
  if !filterParams.isEmpty && !subject.hasFilters then
    .error (.type (.unexpectedFilters subject.searchName
      (Text.sorted (filterParams.map (·.1)))))
  let filters ← Filters.ofParams filterParams
  let root ← Flat.compile subject.scope (params.filter (!isFilter ·))
  let wanted ← checkOffer subject (offerOrStandard subject offer)
  .ok ⟨subject, root, filters, [wanted]⟩

/-- The search with the given parameters, among which a section may be offered. -/
def ofAllParams (subject : Subject) (params : Params) : Except Fault Search :=
  ofParams subject (params.filter fun (name, _) => name ≠ offerParam)
    (.other (params.getD offerParam))

/-- A search without fields. -/
def unrestricted (subject : Subject) : Search := ⟨subject, none, [], [standardSection subject]⟩

/-- The explicit search that a source gives for searches of this kind. -/
def explicitOf (subject : Subject) (source : ExplicitSource) : Except Fault Explicit :=
  match source with
  | .explicit e =>
    if e.subject = subject then .ok e
    else .error (.type (.wrongExplicit subject.searchName subject.explicitName))
  | .query a => Explicit.make subject a []

/-- Replaces the tree and the filters by those of an explicit search; the sections stay. -/
def withExplicit (s : Search) (source : ExplicitSource) : Except Fault Search :=
  (explicitOf s.subject source).map fun e => { s with root := some e.root, filters := e.filters }

/-- The search with the tree and the filters of an explicit search. -/
def ofExplicit (subject : Subject) (source : ExplicitSource) : Except Fault Search :=
  (unrestricted subject).withExplicit source

/-! ## Documents and bodies -/

/-- The compiled document of the search. -/
def document (s : Search) : Record := compiled s.root s.filters.document

/-- The compiled document as the text that is sent. -/
def documentText (s : Search) : Except Fault String :=
  (Json.write Json.wire (.map s.document)).mapError fun fault => .type (.json fault)

/-- The body that asks for the given sections, or for the search's own when none are given. -/
def body (s : Search) (sections : List Section) : Except Fault Record := do
  let text ← s.documentText
  requestBody (.map [(.text "query", .text text)])
    (if sections.isEmpty then s.sections else sections)

end Search

namespace Lookup

/-- The name of look-ups in messages. -/
def name : String := "QueryEvent"

/-- The look-up of the event with this URI and the offered section. -/
def make (uri : Data) (offer : Offer) : Except Fault Lookup :=
  match uri with
  | .text s =>
    let stripped := Text.strip s
    if stripped.isEmpty then .error (.value .blankUri)
    else
      let standard : Section := .listing (Listing.standard .eventArticles)
      match offer with
      | .of wanted =>
        if wanted.target = .event then .ok ⟨stripped, [wanted]⟩
        else .error (.value (.foreignSection wanted.name name))
      | .other a =>
        if a.truthy then .error (.noAttribute a.fullTypeName "target")
        else .ok ⟨stripped, [standard]⟩
  | _ => .error (.value .blankUri)

/-- The body that asks for the given sections, or for the look-up's own when none are given. -/
def body (l : Lookup) (sections : List Section) : Except Fault Record :=
  requestBody (.map [(.text "eventUri", .text l.uri)])
    (if sections.isEmpty then l.sections else sections)

end Lookup

namespace Query

/-- The name of the query's kind. -/
def kindWord : Query → String
  | search s => s.subject.target.word
  | lookup _ => Target.event.word

/-- The name of the query in messages. -/
def typeName : Query → String
  | search s => s.subject.searchName
  | lookup _ => Lookup.name

/-- The path of the service that answers the query. -/
def path : Query → String
  | search s => s.subject.path
  | lookup _ => "/api/v1/event/getEvent"

/-- The sections that are asked for. -/
def sections : Query → List Section
  | search s => s.sections
  | lookup l => l.sections

/-- The body that asks for the given sections, or for the query's own when none are given. -/
def body : Query → List Section → Except Fault Record
  | search s, sections => s.body sections
  | lookup l, sections => l.body sections

/-- The part of a response that holds the sections: all of it, or the entry of the event. -/
def sectionsOf (q : Query) (response : Record) : Record :=
  match q with
  | search _ => response
  | lookup l =>
    match response.get? l.uri with
    | some (.map entries) => entries
    | _ => []

/-- The part of a body that holds the sections.  A search takes the body as it is; a look-up asks it
    for the entry of the event. -/
def sectionsIn (q : Query) (body : Data) : Except Fault Data :=
  match q with
  | search _ => .ok body
  | lookup _ => (body.entriesBy "get").map fun entries => .map (q.sectionsOf entries)

/-- In a body that is a mapping, the sections are those of the mapping. -/
@[simp] theorem sectionsIn_map (q : Query) (r : Record) :
    q.sectionsIn (.map r) = .ok (.map (q.sectionsOf r)) := by
  cases q <;> rfl

end Query

end NewsSearch
