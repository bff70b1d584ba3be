import NewsSearch.Paging.Options
import NewsSearch.Proofs.Paging.Course

/-!
How far a pass goes.

What the service reports bounds a pass: when a page after the first is requested, fewer items have
been delivered than the total known by then, and the page is not beyond the page count known by then
(`Cursor.Reached.bounds`).  `StopBounds` says which reports these are.  A total that page 1 reports
holds for the whole pass.  A page count that page 1 reports without a total does not: the next page
replaces it, also by none at all (`exists_page_beyond_first_count`).

1. What a cursor knows is told by what was heard before it (`Cursor.Reached`): the first total, and
   the page count of the section that governs.  What page 1 reports stays known if it has a total
   (`firstTotal_cons`, `governing_cons`).
2. A request for a page after the first comes from a cursor that wants more, behind as many replies
   as pages (`asked`).  So each request gives a bound on what is known at that point
   (`bounds_of_asked`), and a bound for every page is one on the number of requests
   (`length_requestsIn_le`).
3. Every page after which a pass goes on has brought an item (`le_length_itemsOf`), so a bound on
   the items is one on the requests: the limit is one, and the total that page 1 reports is another.
4. A bound on the requests gives the end of the pass.  Every batch takes a request, so that a caller
   who is ready to take more batches sees the pass end, or a reply on which the dispatcher broke
   (`EndsWithin.of_requests`).

None of this asks anything of the dispatcher; it may contradict itself or never come to an end.

Main statements: `run_stopBounds`, `run_endsWithin`.
-/

namespace NewsSearch

/-- **Behind its first page a pass wants more only within what the service reports**: below the
    first total, and not beyond the pages of the section that governs. -/
theorem Cursor.Reached.bounds {limit : Limit} {heard : List (Option ResponseSection)}
    {delivered : List Batch} {c : Cursor} (hc : c.Reached heard delivered)
    (hmore : c.wantsMore limit = true) (hlater : 0 < delivered.length) :
    (∀ total, firstTotal heard = some total → (itemsOf delivered).length < total) ∧
      ∀ pages, (governing heard).bind (·.pages) = some pages → delivered.length + 1 ≤ pages := by
  have hserved : c.served ≠ 0 := by
    rw [hc.served]
    exact Nat.ne_of_gt hlater
  simp only [wantsMore, Bool.and_eq_true, Bool.or_eq_true, beq_iff_eq, hserved, false_or,
    Bool.not_eq_true'] at hmore
  obtain ⟨-, htotal, hpages⟩ := hmore
  constructor
  · intro total hknown
    rw [totalReached, hc.total, hknown, hc.consumed] at htotal
    simpa using htotal
  · intro pages hknown
    rw [pagesReached, hc.pages, hknown, page, hc.served] at hpages
    simpa using hpages

/-! ## What page 1 reports

Two facts about lists of what was heard, of which the first entry is what page 1 reports. -/

section First

variable {first : Option ResponseSection} (later : List (Option ResponseSection))

/-- The total that is heard first stays known. -/
theorem firstTotal_cons {total : Int} (htotal : first.bind (·.total) = some total) :
    firstTotal (first :: later) = some total := by
  obtain ⟨s, rfl, hs⟩ := Option.bind_eq_some_iff.mp htotal
  simp [firstTotal, hs]

/-- A section that is heard first and has a total governs, whatever is heard later. -/
theorem governing_cons (htotal : (first.bind (·.total)).isSome) :
    governing (first :: later) = first := by
  obtain ⟨total, htotal⟩ := Option.isSome_iff_exists.mp htotal
  obtain ⟨s, rfl, hs⟩ := Option.bind_eq_some_iff.mp htotal
  simp [governing, hs]

/-- Once a section is heard, one of those heard governs: the first with a total, or else the
    last. -/
theorem exists_governing {s : ResponseSection} (hs : first = some s) :
    ∃ g, some g ∈ first :: later ∧ governing (first :: later) = some g := by
  subst hs
  have hheard : (some s :: later).reduceOption ≠ [] := by simp
  cases hg : governing (some s :: later) with
  | none =>
    rw [governing, Option.or_eq_none_iff, List.getLast?_eq_none_iff] at hg
    exact absurd hg.2 hheard
  | some g =>
    refine ⟨g, ?_, rfl⟩
    rw [governing, Option.or_eq_some_iff] at hg
    rw [← List.reduceOption_mem_iff]
    rcases hg with hfound | ⟨-, hlast⟩
    · exact List.mem_of_find?_eq_some hfound
    · exact List.mem_of_getLast? hlast

end First

namespace Pager

variable {σ : Type}

/-! ## The reports that count

The statement is about a whole run, and its clauses speak of the requests in it by their position.
-/

/-- How the reports of the service bound a new pass of which the caller takes at most `most`
    batches. -/
structure StopBounds (d : Dispatcher σ) (p : Pager) (s : σ) (most : Nat) : Prop where
  /-- What is heard is heard in this run: writing it down does not change the batches. -/
  transcribed : (p.run d.transcribed most ([], s)).batches = (p.run d most s).batches
  /-- The requests are for page 1, page 2 and so on, and something is heard for each of them. -/
  consecutive : p.requestsIn d most s = (List.range (p.heardIn d most s).length).map p.request
  /-- Page `j + 1` is requested within the total and the page count that are known after `j` pages:
      the first total that was reported, and the page count next to it or, while there is no total,
      that of the last section. -/
  known : ∀ j, 0 < j → j < (p.requestsIn d most s).length →
    (∀ total, firstTotal ((p.heardIn d most s).take j) = some total →
      (itemsOf ((p.run d most s).batches.take j)).length < total) ∧
    ∀ pages, (governing ((p.heardIn d most s).take j)).bind (·.pages) = some pages → j + 1 ≤ pages
  /-- Once as many items are delivered as page 1 reports, no further request is sent. -/
  first_total : ∀ total, (p.firstHeard d s).bind (·.total) = some total →
    ∀ j, total ≤ (itemsOf ((p.run d most s).batches.take j)).length →
      (p.requestsIn d most s).length ≤ max 1 j
  /-- No page is requested beyond those that page 1 reports, if page 1 reports a total too or if
      every section reports as many pages. -/
  first_pages : ∀ pages, (p.firstHeard d s).bind (·.pages) = some pages →
    ((p.firstHeard d s).bind (·.total)).isSome ∨
      (∀ found, some found ∈ p.heardIn d most s → found.pages = some pages) →
    (p.requestsIn d most s).length ≤ max 1 pages

section Requests

variable {d : Dispatcher σ} {p : Pager} {most : Nat} {s : σ} {j : Nat}

/-- When page `j + 1` is requested, `j` replies were heard and `j` batches delivered, and more is
    wanted.  This is what the course of a run says about its requests. -/
theorem asked (hj : j < (p.requestsIn d most s).length) :
    ∃ c : Cursor, c.wantsMore p.limit = true ∧
      c.Reached ((p.heardIn d most s).take j) ((p.run d most s).batches.take j) ∧
      ((p.run d most s).batches.take j).length = j := by
  obtain ⟨hcourse, -, hrequests, -⟩ := p.run_course d most s
  rw [hrequests, List.length_map, List.length_range] at hj
  obtain ⟨c, hmore, hc, hle⟩ := hcourse.asked Cursor.reached_start j hj
  refine ⟨c, hmore, ?_, List.length_take_of_le hle⟩
  rw [heardIn, ← List.map_take]
  exact hc

/-- From the second request on, what was heard begins with what page 1 reports. -/
theorem take_heardIn (hpos : 0 < j) (hj : j < (p.requestsIn d most s).length) :
    ∃ later, (p.heardIn d most s).take j = p.firstHeard d s :: later := by
  obtain ⟨-, -, -, hfirst⟩ := p.run_course d most s
  rw [← length_heardIn] at hj
  obtain ⟨first, rest, hheard⟩ := List.exists_cons_of_length_pos (Nat.zero_lt_of_lt hj)
  obtain ⟨i, rfl⟩ := Nat.exists_eq_add_of_le' hpos
  rw [hheard] at hfirst ⊢
  obtain rfl := hfirst first rfl
  exact ⟨rest.take i, rfl⟩

/-- A bound on the pages after the first is one on the number of requests, of which one may be for
    page 1. -/
theorem length_requestsIn_le {n : Int}
    (h : ∀ j, 0 < j → j < (p.requestsIn d most s).length → j + 1 ≤ n) :
    (p.requestsIn d most s).length ≤ max 1 n := by
  by_contra hmany
  have hlast := h ((p.requestsIn d most s).length - 1) (by omega) (by omega)
  omega

/-- When a page after the first is requested, the reports that are known allow it. -/
theorem bounds_of_asked (hpos : 0 < j) (hj : j < (p.requestsIn d most s).length) :
    (∀ total, firstTotal ((p.heardIn d most s).take j) = some total →
      (itemsOf ((p.run d most s).batches.take j)).length < total) ∧
    ∀ pages, (governing ((p.heardIn d most s).take j)).bind (·.pages) = some pages →
      j + 1 ≤ pages := by
  obtain ⟨c, hmore, hc, hlength⟩ := asked hj
  obtain ⟨htotal, hpages⟩ := hc.bounds hmore (by omega)
  rw [hlength] at hpages
  exact ⟨htotal, hpages⟩

/-- So does the total that page 1 reports: when a page after the first is requested, fewer items are
    delivered. -/
theorem below_first_total {total : Int} (hfirst : (p.firstHeard d s).bind (·.total) = some total)
    (hpos : 0 < j) (hj : j < (p.requestsIn d most s).length) :
    (itemsOf ((p.run d most s).batches.take j)).length < total := by
  obtain ⟨later, hheard⟩ := take_heardIn hpos hj
  have hknown := (bounds_of_asked hpos hj).1 total
  rw [hheard] at hknown
  exact hknown (firstTotal_cons later hfirst)

/-- The page count that page 1 reports does if it governs, that is if page 1 reports a total too, or
    if all sections report as many pages. -/
theorem within_first_pages {pages : Int} (hfirst : (p.firstHeard d s).bind (·.pages) = some pages)
    (hgoverns : ((p.firstHeard d s).bind (·.total)).isSome ∨
      (∀ found, some found ∈ p.heardIn d most s → found.pages = some pages))
    (hpos : 0 < j) (hj : j < (p.requestsIn d most s).length) : j + 1 ≤ pages := by
  obtain ⟨later, hheard⟩ := take_heardIn hpos hj
  have hknown := (bounds_of_asked hpos hj).2 pages
  refine hknown ?_
  rcases hgoverns with htotal | hall
  · -- page 1 governs
    rw [hheard, governing_cons later htotal, hfirst]
  · -- some section governs, and reports the same
    obtain ⟨found, hfound, -⟩ := Option.bind_eq_some_iff.mp hfirst
    obtain ⟨g, hmem, hgoverning⟩ := exists_governing later hfound
    rw [← hheard] at hmem hgoverning
    rw [hgoverning]
    exact hall g (List.mem_of_mem_take hmem)

end Requests

/-- **The reports of the service bound every pass**, with any dispatcher and any limit, however much
    of it is taken. -/
theorem run_stopBounds (d : Dispatcher σ) (p : Pager) (s : σ) (most : Nat) :
    StopBounds d p s most := by
  obtain ⟨-, hbatches, hrequests, -⟩ := p.run_course d most s
  refine ⟨hbatches, ?_, fun _ hpos hj => bounds_of_asked hpos hj, ?_, ?_⟩
  · rw [hrequests, heardIn, List.length_map]
  · intro total hfirst j hall
    by_contra hmany
    rcases Nat.eq_zero_or_pos j with rfl | hpos
    · -- page 1 reports no matches at all, and yet page 2 is requested
      have hj : 1 < (p.requestsIn d most s).length := by omega
      have hbelow := below_first_total hfirst Nat.one_pos hj
      rw [List.take_zero, itemsOf_nil, List.length_nil] at hall
      omega
    · have hj : j < (p.requestsIn d most s).length := by omega
      have hbelow := below_first_total hfirst hpos hj
      omega
  · intro pages hfirst hgoverns
    exact length_requestsIn_le fun j hpos hj => within_first_pages hfirst hgoverns hpos hj

/-- A pager over all articles, one on a page. -/
def oneByOne (limit : Limit) : Pager where
  query := .search (.unrestricted .articles)
  listing :=
    listingOf .articles rfl ⟨1, by decide⟩ (PagerKind.search .articles).standardOptions .null
  limit := limit
  lastFault := none

/-- Page 1 reports two pages and no total, and page 2 nothing at all: page 3 is requested.  While no
    total is known, every page replaces the page count, so that the first one does not hold for the
    pass. -/
theorem exists_page_beyond_first_count :
    ∃ (p : Pager) (answers : List Answer) (pages : Int), 1 ≤ pages ∧
      (p.firstHeard .replay answers).bind (·.pages) = some pages ∧
      ∃ served : Nat, pages < served + 1 ∧ p.request served ∈ p.requestsIn .replay 3 answers := by
  let p := oneByOne none
  let answers := [Answer.articles [.ofTexts [("uri", .text "a")]] none (some 2),
    .articles [.ofTexts [("uri", .text "b")]] none none, .articles [] none none]
  refine ⟨p, answers, 2, by decide, rfl, 2, by decide, ?_⟩
  obtain ⟨-, -, hrequests, -⟩ := p.run_course .replay 3 answers
  have hthree : (p.repliesIn .replay 3 answers).length = 3 := by decide +kernel
  rw [hrequests, hthree]
  exact List.mem_map_of_mem (by decide)

/-! ## The end of a pass

From the number of requests to the end of the pass. -/

/-- Every pass from this state sends so many requests at most.  Whoever is ready to take more
    batches comes to its end, or to a reply on which the dispatcher broke. -/
structure EndsWithin (d : Dispatcher σ) (p : Pager) (s : σ) (n : Nat) : Prop where
  requests : ∀ most, (p.requestsIn d most s).length ≤ n
  ends : ∀ most, n < most → (p.run d most s).ending = .ended ∨
    ∃ fault, (p.run d most s).ending = .broken fault ∧ .broken fault ∈ p.repliesIn d most s

/-- A run stops only when its caller has got all the batches that it is ready to take, by induction
    on the pulls. -/
theorem length_batches_of_stopped (d : Dispatcher σ) (p : Pager) {most : Nat} {pass : Option Cursor}
    {s : σ} (h : (p.runFrom d most pass s).ending = .stopped) :
    (p.runFrom d most pass s).batches.length = most := by
  induction most generalizing pass s with
  | zero => rfl
  | succ most ih =>
    simp only [runFrom] at h ⊢
    cases hpulled : (p.pull d pass s).pulled with
    | ended | broken fault =>
      rw [hpulled] at h
      cases h
    | batch b next =>
      simp only [hpulled] at h ⊢
      rw [List.length_cons, ih h]

variable {d : Dispatcher σ} {p : Pager} {s : σ}

/-- **A bound on the requests is one on the pass**, for every batch takes a request. -/
theorem EndsWithin.of_requests {n : Nat} (h : ∀ most, (p.requestsIn d most s).length ≤ n) :
    EndsWithin d p s n := by
  refine ⟨h, fun most hmost => ?_⟩
  obtain ⟨hcourse, -, hrequests, -⟩ := p.run_course d most s
  cases hending : (p.run d most s).ending with
  | ended => exact Or.inl rfl
  | broken fault => exact Or.inr ⟨fault, rfl, hcourse.broken_mem hending⟩
  | stopped =>
    -- the caller would have got more batches than there are requests
    have hfull := p.length_batches_of_stopped d hending
    have hbatches := hcourse.length_batches_le
    have hbound := h most
    rw [hrequests, List.length_map, List.length_range] at hbound
    rw [run] at hbatches
    omega

/-- The pages behind which a pass goes on have brought as many items at least, because an empty page
    ends it. -/
theorem le_length_itemsOf {most j : Nat} (hj : j < (p.requestsIn d most s).length) :
    j ≤ (itemsOf ((p.run d most s).batches.take j)).length := by
  obtain ⟨c, -, hc, hlength⟩ := asked hj
  have hfilled := hc.filled
  omega

/-- A pass for `limit` items sends as many requests at most.  A further request would come behind as
    many pages with an item each. -/
theorem length_requestsIn_le_limit {limit : Nat} (hlimit : p.limit = some limit) (most : Nat) :
    (p.requestsIn d most s).length ≤ limit := by
  -- otherwise there is a request behind as many pages, and they have used the limit up
  by_contra hmany
  have hj : limit < (p.requestsIn d most s).length := by omega
  obtain ⟨c, hmore, hc, -⟩ := asked hj
  have hitems := le_length_itemsOf hj
  have hbelow := Cursor.consumed_lt hmore hlimit
  rw [hc.consumed] at hbelow
  omega

/-- No page after the first is requested beyond as many as page 1 reports items. -/
theorem within_first_total {total : Int}
    (hfirst : (p.firstHeard d s).bind (·.total) = some total) {most j : Nat} (hpos : 0 < j)
    (hj : j < (p.requestsIn d most s).length) : j + 1 ≤ total := by
  have hitems := le_length_itemsOf hj
  have hbelow := below_first_total hfirst hpos hj
  omega

/-- **Every limit ends a pass within as many requests, and so does the total that page 1 reports**,
    even if the service has items forever or contradicts itself later; a page count next to this
    total does as well. -/
theorem run_endsWithin (d : Dispatcher σ) (p : Pager) (s : σ) :
    (∀ limit, p.limit = some limit → EndsWithin d p s limit) ∧
      ∀ total, (p.firstHeard d s).bind (·.total) = some total →
        EndsWithin d p s (max 1 total).toNat ∧
          ∀ pages, (p.firstHeard d s).bind (·.pages) = some pages →
            EndsWithin d p s (max 1 (min total pages)).toNat := by
  refine ⟨fun limit hlimit => .of_requests (length_requestsIn_le_limit hlimit), ?_⟩
  intro total htotal
  refine ⟨.of_requests fun most => ?_, fun pages hpages => .of_requests fun most => ?_⟩
  · have hbound : ((p.requestsIn d most s).length : Int) ≤ max 1 total :=
      length_requestsIn_le fun j hpos hj => within_first_total htotal hpos hj
    omega
  · have hgoverns : ((p.firstHeard d s).bind (·.total)).isSome := Option.isSome_of_eq_some htotal
    have hbound : ((p.requestsIn d most s).length : Int) ≤ max 1 (min total pages) :=
      length_requestsIn_le fun j hpos hj =>
        Int.le_min.mpr ⟨within_first_total htotal hpos hj,
          within_first_pages hpages (Or.inl hgoverns) hpos hj⟩
    omega

/-- A service that has another item on every page, and reports more items and pages each time. -/
def endless : Dispatcher Nat where
  ask _ _ n :=
    let answer := Answer.articles [.ofTexts [("uri", .int n)]] (some (n + 3)) (some (n + 2))
    ⟨answer.reply, answer.notes, n + 1⟩

/-- Page 1 reports three items on two pages, so two requests are enough, and for five items at most
    five. -/
theorem run_endsWithin_endless :
    ((oneByOne none).firstHeard endless 0).bind (·.total) = some 3 ∧
      ((oneByOne none).firstHeard endless 0).bind (·.pages) = some 2 ∧
      EndsWithin endless (oneByOne none) 0 3 ∧ EndsWithin endless (oneByOne none) 0 2 ∧
      EndsWithin endless (oneByOne (some 5)) 0 5 := by
  obtain ⟨hthree, htwo⟩ := (run_endsWithin endless (oneByOne none) 0).2 3 rfl
  exact ⟨rfl, rfl, hthree, htwo 2 rfl, (run_endsWithin endless (oneByOne (some 5)) 0).1 5 rfl⟩

end Pager

end NewsSearch
