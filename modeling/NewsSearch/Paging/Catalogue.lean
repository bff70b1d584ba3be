import NewsSearch.Paging.Dispatcher

/-!
Catalogues: services that serve a known list of items.

A catalogue answers the request for a page with exactly the items of that page.  It reports a total,
which may be missing or larger than the number of its items, and it may report how many pages there
are.
-/

namespace NewsSearch

/-- A service that serves a known list of items. -/
structure Catalogue where
  items : List Record
  /-- The total that it reports. -/
  total : Data
  /-- Whether it reports how many pages there are. -/
  reportsPages : Bool
  /-- The entry of its bodies that holds the sections; `none` when they hold them directly. -/
  entry : Option String

namespace Catalogue

/-- The items on a page; pages are counted from 1. -/
def itemsOn (c : Catalogue) (page count : Nat) : List Record :=
  (c.items.drop ((page - 1) * count)).take count

/-- The number of pages of `count` items; there is always one. -/
def pageCount (c : Catalogue) (count : Nat) : Nat :=
  max 1 ((c.items.length + count - 1) / count)

/-- The section for a page. -/
def sectionOn (c : Catalogue) (page count : Nat) : Record :=
  let served : Record := .ofTexts [
    ("results", .list ((c.itemsOn page count).map Data.map)),
    ("totalResults", c.total),
    ("page", .int page)]
  if c.reportsPages then served ++ .ofTexts [("pages", .int (c.pageCount count))] else served

/-- The body that answers with a section of a type. -/
def body (c : Catalogue) (sectionType : String) (content : Record) : Record :=
  let sections : Record := .ofTexts [(sectionType, .map content)]
  match c.entry with
  | some name => .ofTexts [(name, .map sections)]
  | none => sections

/-- The reply to the request for a page of a listing. -/
def reply (c : Catalogue) (q : Query) (l : Listing) : Reply :=
  .ofBody q (.map (c.body l.kind.sectionType (c.sectionOn l.page l.count)))

end Catalogue

end NewsSearch
