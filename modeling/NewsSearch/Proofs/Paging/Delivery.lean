import NewsSearch.Proofs.Paging.Catalogue
import NewsSearch.Proofs.Paging.Making

/-!
What a whole pass delivers and requests.

Against a service that keeps its word, the pass stays on track from batch to batch.  Two inductions
on the pulls say what that gives.

1. The batches hold the objects behind the cursor up to the last one wanted (`OnTrack.runFrom`).
   Each batch holds those up to the next cursor, the following ones those behind it, and the two
   parts make the whole (`drop_take_split`).  A pull either ends the pass, with everything
   delivered, or delivers an object, so that more pulls than objects are enough.
2. The requests are for the pages on which those objects lie (`OnTrack.requests`).  This needs a
   service that reports its true total or its pages, since otherwise the pass learns only from an
   empty page that there is no more.  Then the pass wants more exactly when a wanted object lies
   behind the pages served (`OnTrack.wantsMore_iff`).
3. Page 1 is requested before anything is known, so that the first pull is told apart: with a limit
   of zero there is no request, and without objects there is one (`requestsIn_eq`).
4. Single items come from the same batches (`itemsFrom_all`).

Main statement: `run_service`.
-/

namespace NewsSearch

namespace Pager

variable {σ : Type}

/-- The items of a run over single items are those of its batches, with the same ending; and when no
    batch has a fault, none is kept. -/
theorem itemsFrom_all (d : Dispatcher σ) (p : Pager) (fuel : Nat) (pass : Option Cursor)
    (fault : Option PageFault) (s : σ) :
    (p.itemsFrom d fuel none pass fault s).items = itemsOf (p.runFrom d fuel pass s).batches ∧
      (p.itemsFrom d fuel none pass fault s).ending = (p.runFrom d fuel pass s).ending ∧
      ((∀ b ∈ (p.runFrom d fuel pass s).batches, b.fault = none) →
        (p.itemsFrom d fuel none pass fault s).fault = fault) := by
  induction fuel generalizing pass fault s with
  | zero => exact ⟨rfl, rfl, fun _ => rfl⟩
  | succ fuel ih =>
    simp only [itemsFrom, runFrom]
    cases (p.pull d pass s).pulled with
    | ended => exact ⟨rfl, rfl, fun _ => rfl⟩
    | broken broke => exact ⟨rfl, rfl, fun _ => rfl⟩
    | batch b next =>
      obtain ⟨hitems, hending, hfault⟩ := ih next (b.fault.or fault) (p.pull d pass s).state
      refine ⟨congrArg (b.items ++ ·) hitems, hending, ?_⟩
      intro hnone
      have hb : b.fault = none := hnone b List.mem_cons_self
      have hrest := hfault fun x hx => hnone x (List.mem_cons_of_mem b hx)
      rw [hrest, hb]
      rfl

namespace Service

variable {d : Dispatcher σ} {p : Pager} {objects : List Record} {v : Service d p objects}
variable {c : Cursor}

/-! ## The objects

Places in the list of objects are counted from its front, whichever page they lie on. -/

/-- The objects behind one place are those up to another place and those behind it, all of them
    among the first `most`. -/
theorem drop_take_split (objects : List Record) {first next most : Nat} (h : first ≤ next)
    (hnext : next ≤ most) :
    (objects.drop first).take (next - first) ++ (objects.take most).drop next =
      (objects.take most).drop first := by
  have hfront : (objects.drop first).take (next - first) =
      ((objects.take most).drop first).take (next - first) := by
    rw [List.drop_take, List.take_take, Nat.min_eq_left (by omega)]
  have hback : (objects.take most).drop next =
      ((objects.take most).drop first).drop (next - first) := by
    rw [List.drop_drop, Nat.add_sub_cancel' h]
  rw [hfront, hback, List.take_append_drop]

/-- **A pass on track delivers the wanted objects that it has not delivered yet**, without a fault,
    and ends.  By induction on the pulls: a pull that ends the pass leaves nothing to deliver, and
    any other leaves less. -/
theorem OnTrack.runFrom (h : v.OnTrack c) (s : σ) (most : Nat)
    (hmost : wanted p.limit objects.length - c.consumed < most) :
    (p.runFrom d most (some c) s).ending = .ended ∧
      itemsOf (p.runFrom d most (some c) s).batches =
        (objects.take (wanted p.limit objects.length)).drop c.consumed ∧
      ∀ b ∈ (p.runFrom d most (some c) s).batches, b.fault = none := by
  induction most generalizing c s with
  | zero => exact absurd hmost (Nat.not_lt_zero _)
  | succ most ih =>
    -- once everything wanted is delivered, the pass owes nothing more
    have hnothing (hall : c.consumed = wanted p.limit objects.length) :
        [] = (objects.take (wanted p.limit objects.length)).drop c.consumed := by
      rw [hall, List.drop_eq_nil_of_le (List.length_take_le _ _)]
    simp only [Pager.runFrom, pull]
    cases hmore : c.wantsMore p.limit with
    | false =>
      have hpulled : (p.pullAt d c s).pulled = .ended := by simp [pullAt, hmore]
      rw [hpulled]
      exact ⟨rfl, hnothing (h.delivered_all hmore), fun b hb => absurd hb List.not_mem_nil⟩
    | true =>
      rcases h.pullAt_cases hmore s with
        ⟨hall, hended⟩ | ⟨hrest, b, next, hbatch, hnext, -, hfault, hgrows, hitems⟩
      · -- the page is empty: all objects lie on the pages served
        rw [hended]
        have hle := wanted_le p.limit objects.length
        have hconsumed := h.consumed
        exact ⟨rfl, hnothing (by omega), fun b hb => absurd hb List.not_mem_nil⟩
      · rw [hbatch]
        have hto := hnext.consumed_le
        obtain ⟨hending, hdelivered, hnone⟩ := ih hnext (p.pullAt d c s).state (by omega)
        refine ⟨hending, ?_, ?_⟩
        · -- the batch holds the objects up to the next cursor, the other batches those behind it
          rw [itemsOf_cons, hitems, hdelivered]
          exact drop_take_split objects (Nat.le_of_lt hgrows) hto
        · intro x hx
          rcases List.mem_cons.mp hx with heq | hx
          · rw [heq]; exact hfault
          · exact hnone x hx

/-! ## The requests

Dispatching is recorded: the log is part of the state and grows by one request with each page that
is asked for. -/

/-- Behind the first page, a pass that is told the truth wants more exactly when a wanted object
    lies behind the pages served.  In one direction everything wanted would be delivered, and then
    the report that the pass goes by says so; the other is `delivered_all`. -/
theorem OnTrack.wantsMore_iff (h : v.OnTrack c) (hreports : v.ReportsTotal ∨ v.ReportsPages)
    (hpos : 0 < c.served) :
    c.wantsMore p.limit = true ↔ c.served * p.listing.count < wanted p.limit objects.length := by
  have hconsumed := h.consumed
  have hle := wanted_le p.limit objects.length
  constructor
  · intro hmore
    refine Nat.lt_of_not_le fun hall => ?_
    -- everything wanted is delivered, but the limit is not reached: so there are no more objects
    have hdone : c.consumed = objects.length := by
      cases hlimit : p.limit with
      | none => rw [hlimit, wanted] at hconsumed hall; omega
      | some most =>
        have hbelow := Cursor.consumed_lt hmore hlimit
        rw [hlimit, wanted] at hconsumed hall
        omega
    simp only [Cursor.wantsMore, Bool.and_eq_true, Bool.or_eq_true, Bool.not_eq_true',
      beq_iff_eq] at hmore
    obtain ⟨-, hzero | ⟨htotal, hpages⟩⟩ := hmore
    · omega
    · rcases hreports with hreports | hreports
      · rw [Cursor.totalReached, h.informedTotal hpos hreports] at htotal
        simp only [decide_eq_false_iff_not] at htotal
        omega
      · rw [Cursor.pagesReached, h.informedPages hpos hreports, Cursor.page] at hpages
        simp only [decide_eq_false_iff_not] at hpages
        have hserved : c.served < pagesFor objects.length p.listing.count := by omega
        rw [lt_pagesFor_iff p.listing.count_bounds.1] at hserved
        omega
  · intro hrest
    cases hmore : c.wantsMore p.limit with
    | true => rfl
    | false =>
      have hall := h.delivered_all hmore
      omega

/-- **Behind the first page, a pass that is told the truth requests the pages on which wanted
    objects lie, in order, and no other.**  By induction on the pulls; each request is followed by
    those of the pass behind it. -/
theorem OnTrack.requests (h : v.OnTrack c) (hreports : v.ReportsTotal ∨ v.ReportsPages)
    (hpos : 0 < c.served) (log : Requests) (s : σ) (most : Nat)
    (hmost : wanted p.limit objects.length - c.consumed < most) :
    (p.runFrom d.recorded most (some c) (log, s)).state.1 =
      log ++ (List.range' c.served
        (pagesFor (wanted p.limit objects.length) p.listing.count - c.served)).map p.request := by
  induction most generalizing c log s with
  | zero => exact absurd hmost (Nat.not_lt_zero _)
  | succ most ih =>
    -- the pass goes on exactly while a page with wanted objects is left
    have hiff := h.wantsMore_iff hreports hpos
    rw [← lt_pagesFor_iff p.listing.count_bounds.1] at hiff
    simp only [Pager.runFrom, pull, pullAt_recorded]
    cases hmore : c.wantsMore p.limit with
    | false =>
      have hpulled : (p.pullAt d c s).pulled = .ended := by simp [pullAt, hmore]
      have hdone : pagesFor (wanted p.limit objects.length) p.listing.count - c.served = 0 := by
        rw [hmore] at hiff
        have hnot : ¬ c.served < pagesFor (wanted p.limit objects.length) p.listing.count :=
          fun hlt => Bool.false_ne_true (hiff.mpr hlt)
        omega
      rw [hpulled, hdone]
      exact rfl
    | true =>
      have hserved := hiff.mp hmore
      have hrest := (lt_pagesFor_iff p.listing.count_bounds.1).mp hserved
      have hle := wanted_le p.limit objects.length
      rcases h.pullAt_cases hmore s with
        ⟨hall, -⟩ | ⟨-, b, next, hbatch, hnext, hnextServed, -, hgrows, -⟩
      · omega
      · have hto := hnext.consumed_le
        obtain ⟨pages, hpages⟩ : ∃ pages,
            pagesFor (wanted p.limit objects.length) p.listing.count - c.served = pages + 1 :=
          ⟨_, (Nat.succ_pred_eq_of_pos (Nat.sub_pos_of_lt hserved)).symm⟩
        have hrun := ih hnext (by omega) (log ++ [p.request c.served]) (p.pullAt d c s).state
          (by omega)
        rw [hbatch]
        simp only [if_true]
        rw [hrun, hpages, List.range'_succ, List.append_assoc, hnextServed,
          show pagesFor (wanted p.limit objects.length) p.listing.count - (c.served + 1) = pages by
            omega]
        rfl

/-- How many pages a pass over `n` objects requests when it is told the truth: none when nothing is
    wanted, one to learn that there is nothing, and otherwise those that hold the wanted objects. -/
def pagesRequested (limit : Limit) (n count : Nat) : Nat :=
  if limit = some 0 then 0
  else if n = 0 then 1
  else pagesFor (wanted limit n) count

/-- A new pass that is told the truth requests the first pages, as many as it has to.  It asks for
    page 1 in any case, unless nothing is wanted; the rest is the induction above, from the cursor
    behind page 1. -/
theorem requestsIn_eq (v : Service d p objects) (hreports : v.ReportsTotal ∨ v.ReportsPages) (s : σ)
    {most : Nat} (hmost : objects.length < most) :
    p.requestsIn d most s =
      (List.range (pagesRequested p.limit objects.length p.listing.count)).map p.request := by
  obtain ⟨most, rfl⟩ : ∃ less, most = less + 1 := ⟨most - 1, by omega⟩
  have hstart := v.onTrack_start
  simp only [requestsIn, run, Pager.runFrom, pull, pullAt_recorded, pagesRequested]
  cases hmore : Cursor.start.wantsMore p.limit with
  | false =>
    have hlimit : p.limit = some 0 := by
      apply Decidable.byContradiction
      intro hne
      rw [Cursor.wantsMore_start.mpr hne] at hmore
      cases hmore
    have hpulled : (p.pullAt d Cursor.start s).pulled = .ended := by simp [pullAt, hmore]
    rw [hpulled, if_pos hlimit]
    rfl
  | true =>
    have hlimit : p.limit ≠ some 0 := Cursor.wantsMore_start.mp hmore
    rw [if_neg hlimit]
    rcases hstart.pullAt_cases hmore s with
      ⟨hall, hended⟩ | ⟨hrest, b, next, hbatch, hnext, hserved, -, hgrows, -⟩
    · -- there are no objects
      have hzero : objects.length = 0 := by
        rw [Cursor.start, Nat.zero_mul] at hall
        exact Nat.le_zero.mp hall
      rw [hended, if_pos hzero]
      rfl
    · have hone : next.served = 1 := hserved
      have hle := wanted_le p.limit objects.length
      have hto := hnext.consumed_le
      -- page 1 is requested in any case; behind it the service has been heard
      have hsome : objects.length ≠ 0 := by omega
      have hpages : 0 < pagesFor (wanted p.limit objects.length) p.listing.count :=
        (lt_pagesFor_iff p.listing.count_bounds.1).mpr (by omega)
      have hrun := hnext.requests hreports (by omega) [p.request 0]
        (p.pullAt d Cursor.start s).state most (by omega)
      rw [hbatch, if_neg hsome]
      rw [List.range_eq_range', ← Nat.succ_pred_eq_of_pos hpages, List.range'_succ]
      rw [hone] at hrun
      exact hrun

end Service

/-! ## Whole passes -/

/-- What a whole new pass over a service gives: of its objects at most `max`, or all for -1. -/
structure FullPass {d : Dispatcher σ} {p : Pager} {objects : List Record} (v : Service d p objects)
    (s : σ) (most : Nat) (batch max : Int) : Prop where
  /-- The pass comes to its end, and not because anything failed. -/
  ended : (p.run d most s).ending = .ended
  faultless : ∀ b ∈ (p.run d most s).batches, b.fault = none
  /-- The first objects are delivered, in order and each of them once. -/
  items : itemsOf (p.run d most s).batches =
    if max = -1 then objects else objects.take max.toNat
  /-- The same objects come one by one. -/
  singles : (p.takeItems d most none s).1.items = itemsOf (p.run d most s).batches ∧
    (p.takeItems d most none s).1.ending = .ended ∧ (p.takeItems d most none s).1.fault = none
  /-- Where the true total or the number of pages is reported, the pages requested are 1 to `r`:
      none when nothing is wanted, one when there is nothing, and otherwise those with wanted
      objects. -/
  requests : v.ReportsTotal ∨ v.ReportsPages →
    p.requestsIn d most s = (List.range (
      if max = 0 then 0
      else if objects.length = 0 then 1
      else pagesFor (if max = -1 then objects.length else min objects.length max.toNat)
        (min batch maxBatchSize).toNat)).map p.request

/-- **A pass over a service that keeps its word loses nothing, repeats nothing and requests nothing
    too much**, for every number of objects, every batch size and every limit, whatever else the
    service reports.  More pulls than objects are enough to come to its end. -/
theorem run_service {options : PagerOptions} {p : Pager} {batch max : Int} (made : Made options p)
    (hbatch : options.batchSize = .int batch) (hmax : options.maxItems = .int max)
    {d : Dispatcher σ} {objects : List Record} (v : Service d p objects) (s : σ) {most : Nat}
    (hmost : objects.length < most) : FullPass v s most batch max := by
  obtain ⟨hcount, hmaxLow, hlimit⟩ := made.values hbatch hmax
  have hle := wanted_le p.limit objects.length
  obtain ⟨hending, hitems, hfaults⟩ := v.onTrack_start.runFrom s most (by omega)
  have hsingles := p.itemsFrom_all d most (some Cursor.start) none s
  constructor
  · exact hending
  · exact hfaults
  · rw [run, hitems, hlimit]
    split
    · exact List.take_length
    · exact List.take_eq_take_iff.mpr (by rw [wanted]; omega)
  · exact ⟨hsingles.1, hsingles.2.1.trans hending, hsingles.2.2 hfaults⟩
  · intro hreports
    rw [v.requestsIn_eq hreports s hmost, Service.pagesRequested, hlimit, hcount]
    rcases Decidable.em (max = -1) with hnone | hsome
    · subst hnone
      rfl
    · rw [if_neg hsome, if_neg hsome, wanted]
      have hzero : some max.toNat = some 0 ↔ max = 0 := by
        rw [Option.some_inj]
        omega
      simp only [hzero]

/-- A catalogue of five objects, which reports a larger total and its pages. -/
def fiveObjects : Catalogue where
  items := (List.range 5).map fun i => .ofTexts [("uri", .int (i : Nat))]
  total := .int 9
  reportsPages := true
  entry := none

/-- Options for four objects, two on a page. -/
def fourInPairs : PagerOptions :=
  { (PagerKind.search .articles).standardOptions with batchSize := .int 2, maxItems := .int 4 }

/-- Four of five objects are wanted, two on a page: they are delivered, and page 3 is not requested,
    although it exists and the total seems to promise even more. -/
theorem run_service_page_boundary :
    ∃ p, Made fourInPairs p ∧ ∃ v : Service fiveObjects.dispatcher p fiveObjects.items,
      v.ReportsPages ∧ FullPass v () 6 2 4 ∧
        itemsOf (p.run fiveObjects.dispatcher 6 ()).batches = fiveObjects.items.take 4 ∧
        p.requestsIn fiveObjects.dispatcher 6 () = [p.request 0, p.request 1] := by
  have hanswers : fiveObjects.Answers (.search (.unrestricted .articles)) :=
    ⟨⟨_, rfl⟩, fun t ht => by cases ht; exact Int.le_of_lt (by decide : (5 : Int) < 9), rfl⟩
  have hmade : ∃ p, Made fourInPairs p ∧ p.query = .search (.unrestricted .articles) :=
    made_of_search (.unrestricted .articles) rfl rfl (by decide : (1 : Int) ≤ 2)
      (by decide : (-1 : Int) ≤ 4)
  obtain ⟨p, hp, hquery⟩ := hmade
  rw [← hquery] at hanswers
  have hfull := run_service hp rfl rfl (fiveObjects.service hanswers) () (Nat.le_refl 6)
  have hreports : (fiveObjects.service hanswers).ReportsPages :=
    fun served _ => fiveObjects.counter?_pages (served + 1) _
  exact ⟨p, hp, _, hreports, hfull, hfull.items, hfull.requests (Or.inr hreports)⟩

end Pager

end NewsSearch
