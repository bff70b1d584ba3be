import NewsSearch.Proofs.Paging.Course
import NewsSearch.Proofs.Search.Collecting

/-!
What an outcome tells of the run.

An outcome is added up from batches, and not every page gives one: a page that comes back empty ends
the pass without a batch.  So its number of pages and its total are those of the whole run only when
no page came back empty (`Outcome.Reports`).  A first page without matches is the plain case of the
other kind: one request was sent and a total of zero reported, and the outcome has no page and no
total (`exists_uncounted_page`).

1. Every batch counts as a page, that of a failed page as well (`Outcome.pages_foldl`).
2. The outcome knows the same total as the cursor behind the batches added so far
   (`Outcome.add_total`).  Along the course of a run it is therefore the first one that was heard up
   to the last of the batches (`Course.total_foldl`, by induction on the course).
3. There is one reply for each request, and a batch for each reply but perhaps the last.  If the run
   ended and the last reply gave no batch, it was an empty page.

Main statement: `NamedSearch.collect_reports`.
-/

namespace NewsSearch

/-! ## Adding up batches -/

/-- Every batch counts as a page. -/
theorem Outcome.pages_foldl (bs : List Batch) (o : Outcome) :
    (bs.foldl add o).pages = o.pages + bs.length := by
  induction bs generalizing o with
  | nil => rfl
  | cons b bs ih =>
    rw [List.foldl_cons, ih, List.length_cons, add, Nat.add_right_comm, Nat.add_assoc]

/-- While an outcome knows what the cursor knows, adding a batch makes it know what the batch
    does. -/
theorem Outcome.add_total {p : Pager} {c : Cursor} {reply : Reply} {b : Batch}
    {after : Option Cursor} (turn : Turn p c reply (.batch b after)) {o : Outcome}
    (ho : o.total = c.total) : (o.add b).total = b.total := by
  rw [add, ho, turn.batch_total.1]
  cases c.total <;> cases (p.sectionOf reply).bind (·.total) <;> rfl

/-- **The total of the batches of a course** is the first one that is reported in the replies that
    they came with, or before. -/
theorem Course.total_foldl {p : Pager} {c : Cursor} {replies : List Reply} {bs : List Batch}
    {ending : Ending} (h : Course p c replies bs ending) {o : Outcome}
    {heard : List (Option ResponseSection)} (hc : c.total = firstTotal heard)
    (ho : o.total = c.total) :
    (bs.foldl Outcome.add o).total =
      firstTotal (heard ++ (replies.map p.sectionOf).take bs.length) := by
  induction h generalizing o heard with
  | stopped _ | sated _ | broken _ _ | blank _ _ => simpa using ho.trans hc
  | @failed c reply b _ _ turn _ =>
    have hb : b.total = firstTotal (heard ++ [p.sectionOf reply]) := by
      rw [firstTotal_concat, ← hc, turn.batch_total.1]
    exact (Outcome.add_total turn ho).trans hb
  | @served c next reply b replies bs _ _ turn _ ih =>
    have hb : b.total = firstTotal (heard ++ [p.sectionOf reply]) := by
      rw [firstTotal_concat, ← hc, turn.batch_total.1]
    have hnext : next.total = b.total := turn.batch_total.2 next rfl
    have hrest := ih (hnext.trans hb) ((Outcome.add_total turn ho).trans hnext.symm)
    simpa using hrest

/-! ## Whole searches -/

/-- What an outcome tells of a run with these requests, in which this was heard. -/
structure Outcome.Reports (o : Outcome) (requests : Requests)
    (heard : List (Option ResponseSection)) : Prop where
  /-- Something is heard for each request. -/
  answered : heard.length = requests.length
  /-- When no page comes back empty, every request counts as a page, also that of a page that fails,
      and the total is the first one that was reported. -/
  filled : (∀ s, some s ∈ heard → ¬ s.IsBlank) →
    o.pages = requests.length ∧ o.total = firstTotal heard
  /-- A page that comes back empty is the last one.  It does not count, nor does its total. -/
  blank : ∀ j s, heard[j]? = some (some s) → s.IsBlank →
    j + 1 = requests.length ∧ o.pages = j ∧ o.total = firstTotal (heard.take j)

namespace NamedSearch

variable {σ : Type}

/-- What is heard about the matches while a search is collected: for each reply, its section. -/
def heardIn (d : Dispatcher σ) (options : CollectOptions) (fuel : Nat) (n : NamedSearch) (s : σ) :
    List (Option ResponseSection) :=
  (Transcript.replies (n.collect d.transcribed options fuel ([], s)).state.1).map
    (·.section? n.search.subject.listingKind)

/-- The pager of a search runs over the listing of its matches. -/
theorem kind_of_pager {options : CollectOptions} {n : NamedSearch} {p : Pager}
    (h : (n.pager options).2 = .ok p) : p.listing.kind = n.search.subject.listingKind := by
  simp only [pager, Pager.ofSearch, if_true, bind_eq_ok_iff] at h
  obtain ⟨size, -, limit, -, hp⟩ := h
  cases hp
  rfl

/-- What is heard is what its pager hears. -/
theorem heardIn_eq {d : Dispatcher σ} {options : CollectOptions} {fuel : Nat} {n : NamedSearch}
    {s : σ} {p : Pager} (h : (n.pager options).2 = .ok p) :
    n.heardIn d options fuel s = p.heardIn d fuel s := by
  rw [heardIn, (collect_eq d.transcribed h fuel ([], s)).2.2, ← kind_of_pager h]
  rfl

/-- **The outcome of a search that is collected to its end tells of the whole run, but for a page
    that comes back empty.** -/
theorem collect_reports (d : Dispatcher σ) (options : CollectOptions) (fuel : Nat) (n : NamedSearch)
    (s : σ) (hended : (n.collect d options fuel s).ending = .ended) :
    (n.collect d options fuel s).outcome.Reports (n.requestsIn d options fuel s)
      (n.heardIn d options fuel s) := by
  obtain ⟨p, hp⟩ : ∃ p, (n.pager options).2 = .ok p := by
    rcases hpager : n.pager options with ⟨notes, fault | p⟩
    · simp only [collect, hpager] at hended
      cases hended
    · exact ⟨p, rfl⟩
  obtain ⟨houtcome, hending, -⟩ := collect_eq d hp fuel s
  have hcourse := (p.run_course d fuel s).1
  have hheard : p.heardIn d fuel s = (p.repliesIn d fuel s).map p.sectionOf := rfl
  have hpages : (n.collect d options fuel s).outcome.pages = (p.run d fuel s).batches.length := by
    rw [houtcome, Outcome.pages_foldl]
    exact Nat.zero_add _
  have htotal : (n.collect d options fuel s).outcome.total =
      firstTotal ((p.heardIn d fuel s).take (p.run d fuel s).batches.length) := by
    have hnone : Cursor.start.total = firstTotal [] := rfl
    have hempty : (Outcome.empty n).total = Cursor.start.total := rfl
    rw [houtcome, hheard]
    exact hcourse.total_foldl hnone hempty
  have hlength : (p.repliesIn d fuel s).length = (p.requestsIn d fuel s).length := by
    rw [← p.length_heardIn, hheard, List.length_map]
  have hle := hcourse.length_batches_le
  rw [requestsIn_eq d hp, heardIn_eq hp]
  refine ⟨p.length_heardIn d fuel s, fun hfilled => ?_, fun j found hfound hblank => ?_⟩
  · -- a reply without a batch would have been an empty page
    have hall : (p.repliesIn d fuel s).length ≤ (p.run d fuel s).batches.length := by
      by_contra hmore
      obtain ⟨found, hmem, hblank⟩ :=
        hcourse.exists_blank (hending.symm.trans hended) (Nat.lt_of_not_le hmore)
      exact hfilled found hmem hblank
    refine ⟨by omega, ?_⟩
    rw [htotal, List.take_of_length_le]
    rw [hheard, List.length_map]
    exact hall
  · obtain rfl := hcourse.eq_length_of_blank hfound hblank
    have hlater : (p.run d fuel s).batches.length <
        ((p.repliesIn d fuel s).map p.sectionOf).length :=
      (List.getElem?_eq_some_iff.mp hfound).1
    have hmost := hcourse.length_replies_le
    rw [List.length_map] at hlater
    exact ⟨by omega, hpages, htotal⟩

/-- A search for all articles. -/
def allArticles : NamedSearch := ⟨none, .unrestricted .articles⟩

/-- Page 1 has one of five items, and page 2 has no section: it fails, and counts. -/
theorem collect_reports_failed_page :
    let answers := [Answer.articles [.ofTexts [("uri", .text "a")]] (some 5) none]
    let all := allArticles.collect .replay .standard 3 answers
    all.ending = .ended ∧ all.outcome.pages = 2 ∧ all.outcome.total = some 5 ∧
      all.outcome.Reports (allArticles.requestsIn .replay .standard 3 answers)
        (allArticles.heardIn .replay .standard 3 answers) := by
  intro answers all
  have hended : all.ending = .ended := rfl
  exact ⟨hended, rfl, rfl, collect_reports .replay .standard 3 allArticles answers hended⟩

/-- Page 1 comes back empty and reports a total of zero: it was requested, and yet the outcome has
    no page and no total. -/
theorem exists_uncounted_page :
    ∃ (n : NamedSearch) (options : CollectOptions) (fuel : Nat) (answers : List Answer),
      (n.collect .replay options fuel answers).ending = .ended ∧
        (n.collect .replay options fuel answers).outcome.pages ≠
          (n.requestsIn .replay options fuel answers).length ∧
        (n.collect .replay options fuel answers).outcome.total ≠
          firstTotal (n.heardIn .replay options fuel answers) := by
  refine ⟨allArticles, .standard, 2, [.articles [] (some 0) (some 1)], rfl, ?_, ?_⟩
  · decide +kernel
  · decide +kernel

end NamedSearch

end NewsSearch
