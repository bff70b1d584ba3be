import NewsSearch.Paging.Catalogue
import NewsSearch.Proofs.Paging.Service

/-!
Catalogues keep their word.

A catalogue that does not understate its total, and that puts its sections where the query looks for
them, is a `Service` for every pager over the query (`Catalogue.service`).  So what is proved about
services holds of something that runs: a catalogue answers every request for a page out of a list of
objects.

What is to be shown is that its bodies can be decoded.  Every counter in them is an integer or
missing, so that none of them can fail.
-/

namespace NewsSearch

/-- The entry of a response in which the sections for a query lie; `none` when they are not in
    one. -/
def Query.entry? : Query → Option String
  | search _ => none
  | lookup l => some l.uri

namespace Catalogue

/-- The dispatcher that answers every request for a page out of the catalogue. -/
def dispatcher (k : Catalogue) : Dispatcher Unit where
  ask query asked s :=
    match asked with
    | .listing l => ⟨k.reply query l, [], s⟩
    | .aggregate .. => ⟨.response [], [], s⟩

/-- The catalogue can answer the query: it reports no total or one that is not too small, and its
    bodies hold the sections where the query looks for them. -/
structure Answers (k : Catalogue) (query : Query) : Prop where
  counter : ∃ t, ResponseSection.counter? k.total = .ok t
  total : ∀ t, ResponseSection.counter? k.total = .ok (some t) → (k.items.length : Int) ≤ t
  entry : k.entry = query.entry?

/-- What is read in the section for a page. -/
theorem getD_sectionOn (k : Catalogue) (page count : Nat) :
    (k.sectionOn page count).getD "results" = .list ((k.itemsOn page count).map .map) ∧
      (k.sectionOn page count).getD "totalResults" = k.total ∧
      (k.sectionOn page count).getD "page" = .int page ∧
      (k.sectionOn page count).getD "pages" =
        (if k.reportsPages then .int (k.pageCount count) else .null) ∧
      (k.sectionOn page count).getD "count" = .null ∧
      (k.sectionOn page count).getD "error" = .null := by
  unfold sectionOn
  cases k.reportsPages <;> exact ⟨rfl, rfl, rfl, rfl, rfl, rfl⟩

/-- What is counted as the number of pages in the section for a page. -/
theorem counter?_pages (k : Catalogue) (page count : Nat) :
    ResponseSection.counter? ((k.sectionOn page count).getD "pages") =
      .ok (if k.reportsPages then some (k.pageCount count : Int) else none) := by
  obtain ⟨-, -, -, hpages, -, -⟩ := k.getD_sectionOn page count
  rw [hpages]
  cases k.reportsPages <;> rfl

/-- A query finds the sections in the bodies of a catalogue that answers it. -/
theorem Answers.sectionsOf_body {k : Catalogue} {query : Query} (h : k.Answers query)
    (sectionType : String) (content : Record) :
    query.sectionsOf (k.body sectionType content) = [(.text sectionType, .map content)] := by
  rw [body, h.entry]
  cases query with
  | search s => rfl
  | lookup l => simp [Query.entry?, Query.sectionsOf, Record.ofTexts, Record.get?, Record.find?]

/-- A catalogue keeps its word. -/
def service (k : Catalogue) {p : Pager} (h : k.Answers p.query) :
    Pager.Service k.dispatcher p k.items where
  body served _ := k.body p.listing.kind.sectionType (k.sectionOn (served + 1) p.listing.count)
  content served _ := k.sectionOn (served + 1) p.listing.count
  answers _ _ := rfl
  decodes served _ := by
    obtain ⟨t, ht⟩ := h.counter
    obtain ⟨-, htotal, hpage, -, hcount, herror⟩ := k.getD_sectionOn (served + 1) p.listing.count
    -- every counter is an integer or missing, and so is the error, so none of them can fail
    rw [Query.decode, h.sectionsOf_body]
    simp only [Response.ofRecord, ResponseSection.ofRecord, htotal, ht, hpage, k.counter?_pages,
      hcount, herror]
    exact ⟨_, rfl⟩
  lists served _ := by
    rw [h.sectionsOf_body]
    simp [Record.get?, Record.find?]
  results served _ := by
    rw [(k.getD_sectionOn _ _).1, itemsOn, Nat.add_sub_cancel]
    rfl
  noError served _ := by
    obtain ⟨-, -, -, -, -, herror⟩ := k.getD_sectionOn (served + 1) p.listing.count
    rw [herror]
    rfl
  total served _ t ht := by
    rw [(k.getD_sectionOn _ _).2.1] at ht
    exact h.total t ht
  pages served _ q hq := by
    rw [k.counter?_pages] at hq
    split at hq
    · cases hq
      rfl
    · cases hq

end Catalogue

end NewsSearch
