import NewsSearch.Proofs.Paging.Pass

/-!
Paging is safe whatever the service answers.

A service may contradict itself: report totals that change, serve too much or nothing at all, leave
out the section, fail at any point.  `SafePass` lists what holds of a pass all the same, after any
number of batches that the caller takes of it, and `run_safe` proves it for every dispatcher.

The invariant is carried by `Pass`: between two batches the pass stands at a cursor that counts the
pages served and the items delivered, and a batch comes only when more is wanted at that cursor.  A
batch either serves and leads to the next cursor, or fails and is the last one.

1. Each clause about batches is an induction along the pass, with these two cases: the pages are in
   order (`Pass.page_eq`), the items are counted (`Pass.consumed_eq`), every batch comes below the
   limit (`Pass.before_lt`), all items together stay within it (`Pass.length_itemsOf_le`), a batch
   without a fault has items (`Pass.items_ne_nil`), and one with a fault is the last
   (`Pass.fault_last`).
2. A run is such a pass, and it sends one request for each batch and perhaps one more that brings
   none (`run_pass`).  So the requests are for consecutive pages (`requestsIn_consecutive`), and the
   other clauses about them come down to counting batches.
3. A run that is stopped after some batches is a beginning of a longer one, so that what is
   delivered promptly is delivered in the longer run, too.

Main statement: `run_safe`.
-/

namespace NewsSearch

/-- The items of some batches, in order. -/
def itemsOf (bs : List Batch) : List Record := bs.flatMap (·.items)

@[simp] theorem itemsOf_nil : itemsOf [] = [] := rfl

@[simp] theorem itemsOf_cons (b : Batch) (bs : List Batch) :
    itemsOf (b :: bs) = b.items ++ itemsOf bs := rfl

/-- A pass wants more only below its limit. -/
theorem Cursor.consumed_lt {limit : Limit} {c : Cursor} {most : Nat}
    (hmore : c.wantsMore limit = true) (hlimit : limit = some most) : c.consumed < most := by
  subst hlimit
  simp only [Cursor.wantsMore, Cursor.capReached, Bool.and_eq_true, Bool.not_eq_true',
    decide_eq_false_iff_not] at hmore
  omega

namespace Pass

variable {limit : Limit} {c : Cursor} {bs : List Batch} {last : Option Cursor}

/-- The batches are labelled with the pages behind the cursor, in order. -/
theorem page_eq (h : Pass limit c bs last) :
    ∀ j b, bs[j]? = some b → b.page = c.served + j + 1 := by
  induction h with
  | here c => intro j b hb; cases hb
  | failed _ hfails =>
    intro j b hb
    cases j with
    | zero => cases hb; exact hfails.page
    | succ j => cases hb
  | served _ hserves _ ih =>
    intro j b hb
    cases j with
    | zero => cases hb; exact hserves.page
    | succ j =>
      have hnext := ih j b hb
      have hserved := hserves.served
      omega

/-- Behind its batches a pass has counted all of their items. -/
theorem consumed_eq (h : Pass limit c bs last) {next : Cursor} (hlast : last = some next) :
    next.consumed = c.consumed + (itemsOf bs).length := by
  induction h with
  | here c => cases hlast; rfl
  | failed _ _ => cases hlast
  | served _ hserves _ ih =>
    have hnext := ih hlast
    have hconsumed := hserves.consumed
    rw [itemsOf_cons, List.length_append]
    omega

/-- Each batch of a limited pass comes while fewer items than wanted have been delivered, since more
    was wanted at the cursor before it. -/
theorem before_lt (h : Pass limit c bs last) {most : Nat} (hlimit : limit = some most) :
    ∀ j, j < bs.length → c.consumed + (itemsOf (bs.take j)).length < most := by
  induction h with
  | here c => intro j hj; exact absurd hj (Nat.not_lt_zero j)
  | failed hmore _ =>
    intro j hj
    obtain rfl : j = 0 := by simpa using hj
    exact Cursor.consumed_lt hmore hlimit
  | served hmore hserves _ ih =>
    intro j hj
    cases j with
    | zero => exact Cursor.consumed_lt hmore hlimit
    | succ j =>
      have hnext := ih j (Nat.lt_of_succ_lt_succ hj)
      have hconsumed := hserves.consumed
      rw [List.take_succ_cons, itemsOf_cons, List.length_append]
      omega

/-- A limited pass delivers no more than its limit, items that come with a fault included: what a
    page brings is cut off at the room that is left. -/
theorem length_itemsOf_le (h : Pass limit c bs last) {most : Nat} (hlimit : limit = some most)
    (hc : c.consumed ≤ most) : c.consumed + (itemsOf bs).length ≤ most := by
  induction h with
  | here c => exact hc
  | failed _ hfails =>
    have hroom := hfails.room most hlimit
    rw [itemsOf_cons, itemsOf_nil, List.append_nil]
    omega
  | served _ hserves _ ih =>
    have hroom := hserves.room most hlimit
    have hconsumed := hserves.consumed
    have hnext := ih (by omega)
    rw [itemsOf_cons, List.length_append]
    omega

/-- A batch without a fault has items. -/
theorem items_ne_nil (h : Pass limit c bs last) :
    ∀ b ∈ bs, b.fault = none → b.items ≠ [] := by
  induction h with
  | here c => intro b hb; exact absurd hb List.not_mem_nil
  | failed _ hfails =>
    intro b hb hnone
    obtain ⟨f, hf, -⟩ := hfails.fault
    rw [List.mem_singleton.mp hb, hf] at hnone
    cases hnone
  | served _ hserves _ ih =>
    intro b hb hnone
    rcases List.mem_cons.mp hb with heq | hb
    · rw [heq]; exact hserves.items
    · exact ih b hb hnone

/-- A batch with a fault ends the pass, and the fault repeats its page and its items. -/
theorem fault_last (h : Pass limit c bs last) :
    ∀ j b f, bs[j]? = some b → b.fault = some f →
      j + 1 = bs.length ∧ last = none ∧ f.page = b.page ∧ f.kept = b.items := by
  induction h with
  | here c => intro j b f hb; cases hb
  | failed _ hfails =>
    intro j b f hb hf
    cases j with
    | zero =>
      cases hb
      obtain ⟨g, hg, hpage, hkept⟩ := hfails.fault
      obtain rfl : g = f := Option.some.inj (hg.symm.trans hf)
      exact ⟨rfl, rfl, hpage, hkept⟩
    | succ j => cases hb
  | served _ hserves _ ih =>
    intro j b f hb hf
    cases j with
    | zero =>
      cases hb
      rw [hserves.fault] at hf
      cases hf
    | succ j =>
      obtain ⟨hlength, hlast, hfault⟩ := ih j b f hb hf
      exact ⟨congrArg (· + 1) hlength, hlast, hfault⟩

end Pass

/-! ## Every pass is safe

What is promised is about the run of a caller; the requests are seen by recording them. -/

namespace Pager

variable {σ : Type}

/-- What holds of a new pass of which the caller takes at most `most` batches. -/
structure SafePass (d : Dispatcher σ) (p : Pager) (s : σ) (most : Nat) : Prop where
  /-- The requests are those of this run: recording them changes neither the batches nor the end. -/
  recorded : (p.run d.recorded most ([], s)).batches = (p.run d most s).batches ∧
    (p.run d.recorded most ([], s)).ending = (p.run d most s).ending
  /-- Page 1 is requested, then page 2, and so on: no page is left out and none requested twice. -/
  consecutive :
    p.requestsIn d most s = (List.range (p.requestsIn d most s).length).map p.request
  /-- The batch at place `j` is labelled page `j + 1`, and it has been delivered, with those before
      it, when `j + 1` requests have been sent. -/
  prompt : ∀ j b, (p.run d most s).batches[j]? = some b →
    b.page = j + 1 ∧ (p.requestsIn d (j + 1) s).length = j + 1 ∧
      (p.run d (j + 1) s).batches = (p.run d most s).batches.take (j + 1)
  /-- No more items than wanted are delivered, those of a failed page included. -/
  limited : ∀ limit, p.limit = some limit →
    (itemsOf (p.run d most s).batches).length ≤ limit
  /-- A batch without a fault has items. -/
  filled : ∀ b ∈ (p.run d most s).batches, b.fault = none → b.items ≠ []
  /-- A batch with a fault is the last one and its request the last one; the fault has the page and
      the items of the batch. -/
  failed : ∀ j b f, (p.run d most s).batches[j]? = some b → b.fault = some f →
    j + 1 = (p.run d most s).batches.length ∧ (p.requestsIn d most s).length = j + 1 ∧
      f.page = b.page ∧ f.kept = b.items
  /-- Once as many items as wanted are delivered, no further request is sent. -/
  sated : ∀ limit, p.limit = some limit → ∀ j, j ≤ (p.run d most s).batches.length →
    limit ≤ (itemsOf ((p.run d most s).batches.take j)).length →
      (p.requestsIn d most s).length ≤ j

/-- A run of a new pass as a pass from the start, with the requests that it sends: one for each
    batch, in order, and perhaps one more, after which no batch came although more was wanted. -/
theorem run_pass (d : Dispatcher σ) (p : Pager) (s : σ) (most : Nat) :
    ∃ last extra, Pass p.limit Cursor.start (p.run d most s).batches last ∧
      p.requestsIn d most s =
        (List.range ((p.run d most s).batches.length + extra)).map p.request ∧
      (extra = 0 ∨ extra = 1 ∧ (p.run d most s).batches.length < most ∧
        Unanswered p.limit last) := by
  obtain ⟨last, extra, hpass, hlog, hextra⟩ := p.runFrom_pass d most Cursor.start [] s
  refine ⟨last, extra, hpass, ?_, hextra⟩
  rw [List.range_eq_range']
  exact hlog

/-- Requests are sent for page 1, then page 2, and so on. -/
theorem requestsIn_consecutive (d : Dispatcher σ) (p : Pager) (s : σ) (most : Nat) :
    p.requestsIn d most s = (List.range (p.requestsIn d most s).length).map p.request := by
  obtain ⟨last, extra, -, hlog, -⟩ := p.run_pass d s most
  have hlength : (p.requestsIn d most s).length = (p.run d most s).batches.length + extra := by
    rw [hlog, List.length_map, List.length_range]
  rw [hlength]
  exact hlog

/-- The batch that a caller gets for its last pull was asked for by the last request. -/
theorem length_requestsIn_of_full (d : Dispatcher σ) (p : Pager) (s : σ) {most : Nat}
    (hfull : (p.run d most s).batches.length = most) :
    (p.requestsIn d most s).length = most := by
  obtain ⟨last, extra, -, hlog, hextra⟩ := p.run_pass d s most
  rcases hextra with hzero | ⟨-, hless, -⟩
  · rw [hlog, List.length_map, List.length_range, hzero, hfull, Nat.add_zero]
  · omega

/-- **Every pass is safe**, with any dispatcher and any limit, however much of it is taken. -/
theorem run_safe (d : Dispatcher σ) (p : Pager) (s : σ) (most : Nat) : SafePass d p s most := by
  obtain ⟨last, extra, hpass, hlog, hextra⟩ := p.run_pass d s most
  have hlength : (p.requestsIn d most s).length = (p.run d most s).batches.length + extra := by
    rw [hlog, List.length_map, List.length_range]
  refine ⟨p.runFrom_recorded d most (some Cursor.start) [] s, p.requestsIn_consecutive d s most, ?_,
    ?_, hpass.items_ne_nil, ?_, ?_⟩
  · intro j b hb
    have hj : j < (p.run d most s).batches.length := (List.getElem?_eq_some_iff.mp hb).1
    have hmost : (p.run d most s).batches.length ≤ most := by
      rw [run, p.runFrom_batches_take d _ s (Nat.le_refl most)]
      exact List.length_take_le _ _
    have htake := p.runFrom_batches_take d (some Cursor.start) s (show j + 1 ≤ most by omega)
    have hfull : (p.run d (j + 1) s).batches.length = j + 1 := by
      have hlen := congrArg List.length htake
      rw [List.length_take] at hlen
      rw [run] at hj ⊢
      omega
    refine ⟨?_, p.length_requestsIn_of_full d s hfull, htake⟩
    rw [hpass.page_eq j b hb, Cursor.start, Nat.zero_add]
  · intro limit hlimit
    have hle := hpass.length_itemsOf_le hlimit (Nat.zero_le limit)
    rwa [Cursor.start, Nat.zero_add] at hle
  · intro j b f hb hf
    obtain ⟨hj, hlast, hfault⟩ := hpass.fault_last j b f hb hf
    refine ⟨hj, ?_, hfault⟩
    rcases hextra with hzero | ⟨-, -, next, hnext, -⟩
    · rw [hlength, hzero, hj, Nat.add_zero]
    · rw [hlast] at hnext
      cases hnext
  · intro limit hlimit j hj hsated
    -- a batch or a request after the first `j` would have come below the limit
    have hnot : ¬ j < (p.run d most s).batches.length := by
      intro hlt
      have hbelow := hpass.before_lt hlimit j hlt
      simp only [Cursor.start] at hbelow
      omega
    have hjlen : j = (p.run d most s).batches.length := by omega
    rcases hextra with hzero | ⟨-, -, next, hnext, hmore⟩
    · omega
    · have hconsumed := hpass.consumed_eq hnext
      have hbelow := Cursor.consumed_lt hmore hlimit
      rw [hjlen, List.take_length] at hsated
      simp only [Cursor.start] at hconsumed
      omega

end Pager

end NewsSearch
