import NewsSearch.Section.Response

/-!
Passes over a listing.

A listing comes in pages, which are requested strictly in order from page 1.  A pass ends when the
items wanted have been delivered, when the total or the page count that the service reported is used
up, when a page comes back empty, or when a page fails.  A page that fails is delivered as a batch
with its fault, together with the items that came with it.

This file is the pure part: a `Cursor` says how far a pass is, `wantsMore` whether it goes on, and
`receive` what becomes of an answer.  Totals and page counts are taken from the first page that
reports a total; until then every page may report them.
-/

namespace NewsSearch

open Number

/-- How far a pass is. -/
structure Cursor where
  /-- The pages delivered so far. -/
  served : Nat
  /-- The items delivered so far. -/
  consumed : Nat
  /-- The matches that the service reports. -/
  total : Option Int
  /-- The pages that the service reports. -/
  pages : Option Int
  deriving DecidableEq, Repr

/-- Why a page failed. -/
inductive PageCause where
  | dispatch (fault : DispatchFault)
  /-- The answer has no section of the type of the listing. -/
  | noSection (sectionType : String)
  /-- The service reported an error for the section. -/
  | reported (error : String)
  deriving DecidableEq, Repr

/-- The failure of a page. -/
structure PageFault where
  page : Nat
  /-- The items that came with the failure. -/
  kept : List Record
  cause : PageCause

/-- The wording of the failure of a page. -/
def PageFault.message (f : PageFault) : String :=
  let page := natText f.page
  match f.cause with
  | .dispatch fault => s!"Page {page} failed: {fault.message}"
  | .noSection sectionType => s!"Page {page} response has no {sectionType} section"
  | .reported error => s!"Page {page} returned an error: {error}"

/-- The items of one page. -/
structure Batch where
  items : List Record
  page : Nat
  /-- The matches that the service reports, when known. -/
  total : Option Int
  fault : Option PageFault

/-- The most items that a pass delivers; `none` for no limit. -/
abbrev Limit := Option Nat

/-- What the service answers to the request for a page. -/
inductive PageAnswer where
  | refused (fault : DispatchFault)
  | noSection
  | listing (s : ResponseSection)

/-- What becomes of an answer. -/
inductive Received where
  /-- A batch is delivered and the pass may go on. -/
  | delivered (batch : Batch) (next : Cursor)
  /-- A batch with a fault is delivered and ends the pass. -/
  | failed (batch : Batch)
  /-- The page is empty, which ends the pass. -/
  | empty (last : Cursor)

namespace Cursor

/-- The beginning of a pass. -/
def start : Cursor := ⟨0, 0, none, none⟩

/-- The page to request next. -/
def page (c : Cursor) : Nat := c.served + 1

/-- Whether as many items as wanted have been delivered. -/
def capReached (limit : Limit) (c : Cursor) : Bool :=
  match limit with
  | some most => most ≤ c.consumed
  | none => false

/-- Whether as many items as the service reports have been delivered. -/
def totalReached (c : Cursor) : Bool :=
  match c.total with
  | some total => total ≤ c.consumed
  | none => false

/-- Whether the next page is beyond those that the service reports. -/
def pagesReached (c : Cursor) : Bool :=
  match c.pages with
  | some pages => pages < c.page
  | none => false

/-- Whether the pass goes on at this point.  What the service reports bounds a pass only after its
    first page. -/
def wantsMore (limit : Limit) (c : Cursor) : Bool :=
  !c.capReached limit && (c.served == 0 || (!c.totalReached && !c.pagesReached))

/-- Takes over what a page reports, unless the total is known already. -/
def learn (c : Cursor) (s : ResponseSection) : Cursor :=
  if c.total.isNone then { c with total := s.total, pages := s.pages } else c

/-- The items that may still be delivered. -/
def truncate (limit : Limit) (c : Cursor) (items : List Record) : List Record :=
  match limit with
  | some most => items.take (most - c.consumed)
  | none => items

/-- The cursor after a batch of `n` items. -/
def advance (c : Cursor) (n : Nat) : Cursor :=
  { c with served := c.served + 1, consumed := c.consumed + n }

/-- A report that may be missing, in words. -/
def reportText : Option Int → String
  | some n => intText n
  | none => "None"

/-- The note about what a page reports. -/
def learnNotes (c : Cursor) (s : ResponseSection) : List Note :=
  if c.total.isNone then
    Note.counting [s.total, s.pages] (.paging .debug
      s!"Listing reports total={reportText s.total} pages={reportText s.pages}")
  else []

/-- A batch with a fault and the note about it. -/
def fail (c : Cursor) (kept : List Record) (cause : PageCause) : List Note × Received :=
  let fault : PageFault := ⟨c.page, kept, cause⟩
  ([.paging .warning fault.message], .failed ⟨kept, c.page, c.total, some fault⟩)

/-- What becomes of the answer to the request for the next page of a listing of the given type, and
    the notes about it.

    A request that is refused and an answer without a section fail with no items.  Otherwise the
    cursor first takes over what the section reports, and the items are cut to those still wanted.
    A failure of the section comes before everything else: the page fails with its items, be there
    none or as many as wanted.  Without a failure a page without items ends the pass, and it is
    empty also when nothing more was wanted of it.  Any other page is delivered. -/
def receive (limit : Limit) (sectionType : String) (c : Cursor) :
    PageAnswer → List Note × Received
  | .refused fault => c.fail [] (.dispatch fault)
  | .noSection => c.fail [] (.noSection sectionType)
  | .listing s =>
    let known := c.learn s
    let items := known.truncate limit s.items
    match s.failure? with
    | some error =>
      let (notes, received) := known.fail items (.reported error)
      (c.learnNotes s ++ notes, received)
    | none =>
      if items.isEmpty then
        (c.learnNotes s ++ [.paging .debug s!"Page {natText c.page} is empty; stop"], .empty known)
      else
        (c.learnNotes s,
          .delivered ⟨items, c.page, known.total, none⟩ (known.advance items.length))

/-- The note at the end of a pass that did not fail. -/
def finishNote (c : Cursor) : Note :=
  .paging .debug s!"Iteration finished after {natText c.consumed} items"

end Cursor

end NewsSearch
