import NewsSearch.Proofs.Accepted
import NewsSearch.Proofs.Paging.Safety

/-!
Paging against a service that keeps its word.

A `Service` holds a list of objects and answers the request for a page of them with the objects on
that page.  It may report a total, which is never too small, and the number of its pages; it may
also report nothing.  Its answers are bodies, so that they go through the decoder like those of any
other service.

The invariant of a pass over it is `OnTrack`: the items delivered are as many as lie on the pages
served, or all that are wanted, and what the cursor knows was reported by the service.

1. The answer to the request for a page is decoded to a section with the objects of that page and
   without a failure (`Service.answer`).  The body may hold other sections, but only one under the
   name of the listing is looked at (`Response.get?_of_ofRecord`).
2. If the pass wants no more, everything wanted is delivered (`OnTrack.delivered_all`).  There are
   three reasons to stop: the limit is reached, the total is reached, and it is not too small, or
   the pages are used up, and they hold all objects.
3. If it wants more and there is more, the limit is not reached, and then the items delivered are
   exactly those on the pages served (`OnTrack.consumed_eq`).  So what is kept of the next page are
   the objects directly behind them (`OnTrack.truncate_eq`).
4. Behind that page the pass is on track again (`OnTrack.advance`).  What the cursor knows comes
   from this page, or from an earlier one if a total was known before.

Steps 2 to 4 are put together for one pull, which keeps the pass on track or ends it with everything
delivered.

Main statement: `Service.OnTrack.pullAt_cases`.
-/

namespace NewsSearch

/-! ## What is decoded

The decoder goes through all entries of a body and takes those that are objects for sections.  It is
followed only as far as the section of the listing. -/

/-- What a decoded section says about a listing: its items, the error as far as it is reported, and
    the two counters that matter for paging. -/
theorem ResponseSection.ofRecord_ok {name : Scalar} {data : Record} {s : ResponseSection}
    (h : ofRecord name data = .ok s) :
    s.items = objects (data.getD "results") ∧ reported (data.getD "error") = .ok s.error ∧
      counter? (data.getD "totalResults") = .ok s.total ∧
      counter? (data.getD "pages") = .ok s.pages := by
  simp only [ofRecord, bind_eq_ok_iff] at h
  obtain ⟨total, htotal, _, -, pages, hpages, _, -, error, herror, hs⟩ := h
  cases hs
  exact ⟨rfl, herror, htotal, hpages⟩

/-- In a response that could be decoded, a section that is an object is there under its name.  By
    induction on the entries: one of another name adds a section before the one wanted, or nothing,
    when it is no object. -/
theorem Response.get?_of_ofRecord {sections : Record} {r : Response} {name : String}
    {content : Record} (h : ofRecord sections = .ok r)
    (hcontent : sections.get? name = some (.map content)) :
    ∃ key s, r.get? name = some s ∧ ResponseSection.ofRecord key content = .ok s := by
  induction sections generalizing r with
  | nil => cases hcontent
  | cons e rest ih =>
    obtain ⟨k, v⟩ := e
    simp only [Record.get?, Record.find?] at hcontent ih
    by_cases hk : k.same (.text name) = true
    · rw [if_pos hk] at hcontent
      obtain rfl := Option.some.inj hcontent
      simp only [ofRecord, bind_eq_ok_iff] at h
      obtain ⟨s, hs, others, -, hr⟩ := h
      cases hr
      exact ⟨k, s, by simp [get?, hk], hs⟩
    · rw [if_neg hk] at hcontent
      -- an entry of another name adds a section before the one wanted, or nothing
      have hothers : ∃ others, ofRecord rest = .ok others ∧ r.get? name = get? others name := by
        cases v with
        | map data =>
          simp only [ofRecord, bind_eq_ok_iff] at h
          obtain ⟨s, -, others, hothers, hr⟩ := h
          cases hr
          exact ⟨others, hothers, by simp [get?, hk]⟩
        | scalar x => exact ⟨r, h, rfl⟩
        | list items => exact ⟨r, h, rfl⟩
        | tuple items => exact ⟨r, h, rfl⟩
      obtain ⟨others, hrest, hget⟩ := hothers
      rw [hget]
      exact ih hrest hcontent

/-- Objects served as a list are read as those objects. -/
theorem ResponseSection.objects_map (rs : List Record) : objects (.list (rs.map .map)) = rs := by
  induction rs with
  | nil => rfl
  | cons r rest ih => exact congrArg (r :: ·) ih

namespace Pager

/-! ## Services

What is asked of a service is only what its answers say.  How it comes by them is left open, and so
is its state. -/

/-- The objects on the page after `served` pages of `count` objects. -/
def pageAfter (objects : List Record) (count served : Nat) : List Record :=
  (objects.drop (served * count)).take count

/-- The number of pages of `count` objects that hold `n` objects. -/
def pagesFor (n count : Nat) : Nat := (n + count - 1) / count

/-- As many of `n` objects as a limit allows. -/
def wanted (limit : Limit) (n : Nat) : Nat :=
  match limit with
  | some most => min n most
  | none => n

variable {σ : Type}

/-- A dispatcher that serves objects to a pager: it answers the request for a page, in whatever
    state it is, with a body that can be decoded, and the section of the listing in this body has
    the objects of the page and no error.  If it reports a total, the total is not smaller than the
    number of the objects; if it reports a number of pages, that is the number of pages that the
    objects take, and no objects take one page. -/
structure Service (d : Dispatcher σ) (p : Pager) (objects : List Record) where
  /-- The body that answers the request for the page after so many pages. -/
  body : Nat → σ → Record
  /-- The section of the listing in that body. -/
  content : Nat → σ → Record
  answers : ∀ served s,
    (d.ask p.query (.listing (p.listing.afterPages served)) s).reply =
      .ofBody p.query (.map (body served s))
  decodes : ∀ served s, ∃ r, p.query.decode (body served s) = .ok r
  lists : ∀ served s,
    (p.query.sectionsOf (body served s)).get? p.listing.kind.sectionType =
      some (.map (content served s))
  results : ∀ served s,
    (content served s).getD "results" =
      .list ((pageAfter objects p.listing.count served).map .map)
  noError : ∀ served s, ((content served s).getD "error").truthy = false
  total : ∀ served s t,
    ResponseSection.counter? ((content served s).getD "totalResults") = .ok (some t) →
      (objects.length : Int) ≤ t
  pages : ∀ served s q,
    ResponseSection.counter? ((content served s).getD "pages") = .ok (some q) →
      q = (max 1 (pagesFor objects.length p.listing.count) : Nat)

namespace Service

variable {d : Dispatcher σ} {p : Pager} {objects : List Record} (v : Service d p objects)

/-- The service reports its true total on every page. -/
def ReportsTotal : Prop := ∀ served s,
  ResponseSection.counter? ((v.content served s).getD "totalResults") =
    .ok (some (objects.length : Int))

/-- The service reports the number of its pages on every page. -/
def ReportsPages : Prop := ∀ served s,
  ResponseSection.counter? ((v.content served s).getD "pages") =
    .ok (some ((max 1 (pagesFor objects.length p.listing.count) : Nat) : Int))

/-- **The answer of the service as the pass takes it**: the objects of the page, no failure, and the
    counters as they stand in the body. -/
theorem answer (served : Nat) (s : σ) :
    ∃ listed, p.answerOf (d.ask p.query (.listing (p.listing.afterPages served)) s).reply =
        .ok (.listing listed) ∧
      listed.items = pageAfter objects p.listing.count served ∧ listed.failure? = none ∧
      ResponseSection.counter? ((v.content served s).getD "totalResults") = .ok listed.total ∧
      ResponseSection.counter? ((v.content served s).getD "pages") = .ok listed.pages := by
  obtain ⟨r, hr⟩ := v.decodes served s
  obtain ⟨key, listed, hget, hsection⟩ := Response.get?_of_ofRecord hr (v.lists served s)
  obtain ⟨hitems, herror, htotal, hpages⟩ := ResponseSection.ofRecord_ok hsection
  refine ⟨listed, ?_, ?_, ?_, htotal, hpages⟩
  · rw [v.answers served s, Reply.ofBody, Query.decodeValue_map, hr]
    simp only [answerOf, hget]
  · rw [hitems, v.results served s, ResponseSection.objects_map]
  · -- a value that does not count as true reports nothing
    rw [ResponseSection.reported, v.noError served s] at herror
    rw [ResponseSection.failure?, ← Except.ok.inj herror]
    rfl

/-! ## The invariant

It has one clause for what is delivered, and five for what is known.  The last two say that a
service which reports is heard, and are needed only where requests are counted. -/

/-- The pass at a cursor is on track: as many items are delivered as lie on the pages served, or all
    that are wanted; what is known of totals and pages was reported, and nothing is known before the
    first page. -/
structure OnTrack (c : Cursor) : Prop where
  consumed : c.consumed = min (c.served * p.listing.count) (wanted p.limit objects.length)
  total : ∀ t, c.total = some t → (objects.length : Int) ≤ t
  pages : ∀ q, c.pages = some q → q = (max 1 (pagesFor objects.length p.listing.count) : Nat)
  fresh : c.served = 0 → c.total = none
  informedTotal : 0 < c.served → v.ReportsTotal → c.total = some (objects.length : Int)
  informedPages : 0 < c.served → v.ReportsPages →
    c.pages = some ((max 1 (pagesFor objects.length p.listing.count) : Nat) : Int)

/-- A new pass is on track: nothing is served, delivered or known. -/
theorem onTrack_start : v.OnTrack Cursor.start where
  consumed := by rw [Cursor.start, Nat.zero_mul, Nat.zero_min]
  total := fun _ h => nomatch h
  pages := fun _ h => nomatch h
  fresh := fun _ => rfl
  informedTotal := fun h => absurd h (Nat.lt_irrefl 0)
  informedPages := fun h => absurd h (Nat.lt_irrefl 0)

end Service

/-- No more objects are wanted than there are. -/
theorem wanted_le (limit : Limit) (n : Nat) : wanted limit n ≤ n := by
  cases limit with
  | none => exact Nat.le_refl n
  | some most => exact Nat.min_le_left n most

/-- A page lies behind fewer pages than hold the objects exactly when an object lies behind it: the
    number of pages is rounded up. -/
theorem lt_pagesFor_iff {n count served : Nat} (hcount : 1 ≤ count) :
    served < pagesFor n count ↔ served * count < n := by
  rw [pagesFor, Nat.lt_iff_add_one_le, Nat.le_div_iff_mul_le hcount, Nat.add_mul, Nat.one_mul]
  omega

namespace Service

variable {d : Dispatcher σ} {p : Pager} {objects : List Record} {v : Service d p objects}
variable {c : Cursor}

/-- A pass on track has delivered no more than is wanted. -/
theorem OnTrack.consumed_le (h : v.OnTrack c) : c.consumed ≤ wanted p.limit objects.length := by
  rw [h.consumed]
  exact Nat.min_le_right _ _

/-- **A pass on track that wants no more has delivered everything.** -/
theorem OnTrack.delivered_all (h : v.OnTrack c) (hmore : c.wantsMore p.limit = false) :
    c.consumed = wanted p.limit objects.length := by
  have hconsumed := h.consumed
  have hle := wanted_le p.limit objects.length
  simp only [Cursor.wantsMore, Bool.and_eq_false_iff, Bool.or_eq_false_iff,
    Bool.not_eq_false', beq_eq_false_iff_ne] at hmore
  rcases hmore with hcap | ⟨-, htotal | hpages⟩
  · -- the limit is reached
    cases hlimit : p.limit with
    | none => rw [hlimit] at hcap; cases hcap
    | some most =>
      rw [hlimit] at hconsumed hcap
      have hmost : most ≤ c.consumed := by simpa [Cursor.capReached] using hcap
      have hwanted : wanted (some most) objects.length ≤ most := Nat.min_le_right _ _
      omega
  · -- the total is reached, and no total is too small
    unfold Cursor.totalReached at htotal
    split at htotal
    · next t ht =>
      have hreached : t ≤ c.consumed := by simpa using htotal
      have hn := h.total t ht
      omega
    · cases htotal
  · -- the pages are used up, so all objects lie on those served
    unfold Cursor.pagesReached at hpages
    split at hpages
    · next q hq =>
      have hreached : q < c.page := by simpa using hpages
      have hq' := h.pages q hq
      rw [Cursor.page] at hreached
      have hserved : ¬ c.served < pagesFor objects.length p.listing.count := by omega
      rw [lt_pagesFor_iff p.listing.count_bounds.1] at hserved
      omega
    · cases hpages

/-- Where more is wanted and there is more, exactly the objects on the pages served are delivered:
    the limit was not reached, so that no page was cut. -/
theorem OnTrack.consumed_eq (h : v.OnTrack c) (hmore : c.wantsMore p.limit = true)
    (hrest : c.served * p.listing.count < objects.length) :
    c.consumed = c.served * p.listing.count ∧ c.consumed < wanted p.limit objects.length := by
  have hconsumed := h.consumed
  cases hlimit : p.limit with
  | none =>
    rw [hlimit, wanted] at hconsumed
    rw [wanted]
    omega
  | some most =>
    have hbelow := Cursor.consumed_lt hmore hlimit
    rw [hlimit, wanted] at hconsumed
    rw [wanted]
    omega

/-- What is kept of the next page are the objects behind those delivered, up to the end of the page
    or to the last one wanted.  Both sides take a part of the same list, so that it is enough to
    compare lengths. -/
theorem OnTrack.truncate_eq (h : v.OnTrack c) (hmore : c.wantsMore p.limit = true)
    (hrest : c.served * p.listing.count < objects.length) (known : Cursor)
    (hknown : known.consumed = c.consumed) :
    known.truncate p.limit (pageAfter objects p.listing.count c.served) =
      (objects.drop c.consumed).take
        (min ((c.served + 1) * p.listing.count) (wanted p.limit objects.length) - c.consumed) := by
  obtain ⟨hpage, -⟩ := h.consumed_eq hmore hrest
  rw [pageAfter, ← hpage, Nat.add_mul, Nat.one_mul, ← hpage]
  cases hlimit : p.limit with
  | none =>
    rw [Cursor.truncate, wanted, List.take_eq_take_iff, List.length_drop]
    omega
  | some most =>
    rw [Cursor.truncate, wanted, List.take_take, List.take_eq_take_iff, List.length_drop, hknown]
    omega

/-- **Behind a page that is taken the pass is on track**, when the page holds what is wanted of it.
    A cursor that knows a total keeps what it knows; one that knows none takes both counters from
    the page. -/
theorem OnTrack.advance (h : v.OnTrack c) {listed : ResponseSection} {s : σ} {n : Nat}
    (htotal : ResponseSection.counter? ((v.content c.served s).getD "totalResults") =
      .ok listed.total)
    (hpages : ResponseSection.counter? ((v.content c.served s).getD "pages") = .ok listed.pages)
    (hn : c.consumed + n =
      min ((c.served + 1) * p.listing.count) (wanted p.limit objects.length)) :
    v.OnTrack ((c.learn listed).advance n) := by
  have hconsumed : ((c.learn listed).advance n).consumed = c.consumed + n := by
    rw [Cursor.advance, Cursor.learn_consumed]
  have hserved : ((c.learn listed).advance n).served = c.served + 1 := by
    rw [Cursor.advance, Cursor.learn_served]
  -- what is known behind the page is what was known before it, or what the page reports
  have hknown : (c.total ≠ none ∧ ((c.learn listed).advance n).total = c.total ∧
        ((c.learn listed).advance n).pages = c.pages) ∨
      (((c.learn listed).advance n).total = listed.total ∧
        ((c.learn listed).advance n).pages = listed.pages) := by
    unfold Cursor.advance Cursor.learn
    cases htot : c.total with
    | none => exact Or.inr ⟨rfl, rfl⟩
    | some t => exact Or.inl ⟨Option.some_ne_none t, htot, rfl⟩
  constructor
  · rw [hconsumed, hserved]
    exact hn
  · intro t ht
    rcases hknown with ⟨-, hsame, -⟩ | ⟨hnew, -⟩
    · exact h.total t (hsame ▸ ht)
    · exact v.total c.served s t (by rw [htotal, ← hnew, ht])
  · intro q hq
    rcases hknown with ⟨-, -, hsame⟩ | ⟨-, hnew⟩
    · exact h.pages q (hsame ▸ hq)
    · exact v.pages c.served s q (by rw [hpages, ← hnew, hq])
  · intro hzero
    omega
  · intro _ hreports
    rcases hknown with ⟨hsome, hsame, -⟩ | ⟨hnew, -⟩
    · have hpos : 0 < c.served := Nat.pos_of_ne_zero fun hzero => hsome (h.fresh hzero)
      rw [hsame, h.informedTotal hpos hreports]
    · rw [hnew]
      exact Except.ok.inj (htotal.symm.trans (hreports c.served s))
  · intro _ hreports
    rcases hknown with ⟨hsome, -, hsame⟩ | ⟨-, hnew⟩
    · have hpos : 0 < c.served := Nat.pos_of_ne_zero fun hzero => hsome (h.fresh hzero)
      rw [hsame, h.informedPages hpos hreports]
    · rw [hnew]
      exact Except.ok.inj (hpages.symm.trans (hreports c.served s))

/-- **A pull from a pass on track that wants more**: it ends the pass when all objects lie on the
    pages served, and otherwise delivers objects behind those delivered and keeps the pass on track.
    It delivers at least one, which is what bounds the pass. -/
theorem OnTrack.pullAt_cases (h : v.OnTrack c) (hmore : c.wantsMore p.limit = true) (s : σ) :
    (objects.length ≤ c.served * p.listing.count ∧ (p.pullAt d c s).pulled = .ended) ∨
    (c.served * p.listing.count < objects.length ∧ ∃ b next,
      (p.pullAt d c s).pulled = .batch b (some next) ∧ v.OnTrack next ∧
        next.served = c.served + 1 ∧ b.fault = none ∧ c.consumed < next.consumed ∧
        b.items = (objects.drop c.consumed).take (next.consumed - c.consumed)) := by
  obtain ⟨listed, hanswer, hitems, herror, htotal, hpages⟩ := v.answer c.served s
  simp only [pullAt, hmore, if_true, pageSection, hanswer, Cursor.receive, herror, hitems]
  have hknown : (c.learn listed).consumed = c.consumed := Cursor.learn_consumed listed
  rcases Nat.lt_or_ge (c.served * p.listing.count) objects.length with hrest | hall
  · refine Or.inr ⟨hrest, ?_⟩
    obtain ⟨hpage, hbelow⟩ := h.consumed_eq hmore hrest
    have hle := wanted_le p.limit objects.length
    have hcount := p.listing.count_bounds.1
    rw [h.truncate_eq hmore hrest _ hknown]
    generalize hkept : (objects.drop c.consumed).take
      (min ((c.served + 1) * p.listing.count) (wanted p.limit objects.length) - c.consumed) = kept
    have hlength : c.consumed + kept.length =
        min ((c.served + 1) * p.listing.count) (wanted p.limit objects.length) := by
      rw [← hkept, List.length_take, List.length_drop, Nat.add_mul, Nat.one_mul]
      omega
    have hmorekept : c.consumed < c.consumed + kept.length := by
      rw [hlength, Nat.add_mul, Nat.one_mul]
      omega
    have hne : kept.isEmpty = false := by
      cases kept with
      | nil => exact absurd hmorekept (Nat.lt_irrefl _)
      | cons _ _ => rfl
    rw [hne]
    refine ⟨_, _, rfl, ?_, ?_, rfl, ?_, ?_⟩
    · exact h.advance htotal hpages hlength
    · rw [Cursor.advance, Cursor.learn_served]
    · rw [Cursor.advance, Cursor.learn_consumed]
      exact hmorekept
    · rw [Cursor.advance, Cursor.learn_consumed, Nat.add_sub_cancel_left, ← hkept]
      rw [List.take_eq_take_iff, List.length_take]
      omega
  · refine Or.inl ⟨hall, ?_⟩
    have hnothing : (c.learn listed).truncate p.limit (pageAfter objects p.listing.count c.served) =
        [] := by
      rw [pageAfter, List.drop_eq_nil_of_le hall, List.take_nil]
      cases p.limit <;> simp [Cursor.truncate]
    rw [hnothing]
    rfl

end Service

end Pager

end NewsSearch
