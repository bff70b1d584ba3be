import NewsSearch.Proofs.Paging.Requests

/-!
What a pass over pages delivers, batch by batch.

`Cursor.receive` decides what becomes of one answer, and `Pager.pullAt` asks for it.  This file says
once what a batch can be: one that was served, with items and no fault, after which the pass goes on
(`Cursor.Serves`), or one with a fault, after which it does not (`Cursor.Fails`).

1. An answer becomes one of these, or an empty page, which gives no batch (`Cursor.receive_cases`).
   This is the only place that looks at the forms of an answer.
2. A pull gives what its answer becomes; it gives nothing when no more is wanted, and breaks when
   the reply says nothing about the listing (`Pager.pullAt_cases`).
3. `Pass` strings batches together: it relates a cursor to the batches that come after it and to
   where the pass stands behind them.
4. Every run is such a pass, whatever the dispatcher does (`runFrom_pass`, by induction on the
   pulls).  It sends one request for each batch, and at most one more, whose answer gave no batch.

The properties of whole passes are inductions over `Pass`.

Main statement: `Pager.runFrom_pass`.
-/

namespace NewsSearch

/-! ## One batch

What is said of a served and of a failed page is as much as later inductions need. -/

namespace Cursor

/-- A page was served: it has items, no more than are wanted, and the pass goes on behind it. -/
structure Serves (limit : Limit) (c : Cursor) (b : Batch) (next : Cursor) : Prop where
  page : b.page = c.page
  fault : b.fault = none
  items : b.items ≠ []
  room : ∀ most, limit = some most → b.items.length ≤ most - c.consumed
  served : next.served = c.served + 1
  consumed : next.consumed = c.consumed + b.items.length

/-- A page failed: its fault repeats the page and the items, which are no more than are wanted. -/
structure Fails (limit : Limit) (c : Cursor) (b : Batch) : Prop where
  page : b.page = c.page
  fault : ∃ f, b.fault = some f ∧ f.page = b.page ∧ f.kept = b.items
  room : ∀ most, limit = some most → b.items.length ≤ most - c.consumed

variable {limit : Limit} {c : Cursor}

/-- A new pass wants more, unless it wants nothing at all: nothing is known yet that could stop
    it. -/
theorem wantsMore_start : start.wantsMore limit = true ↔ limit ≠ some 0 := by
  cases limit with
  | none => exact ⟨fun _ => nofun, fun _ => rfl⟩
  | some most => cases most <;> simp [wantsMore, capReached, start]

/-- What a page reports changes neither the pages served nor the items delivered. -/
@[simp] theorem learn_served (s : ResponseSection) : (c.learn s).served = c.served := by
  unfold learn; split <;> rfl

/-- Nor does it change how many items are delivered. -/
@[simp] theorem learn_consumed (s : ResponseSection) : (c.learn s).consumed = c.consumed := by
  unfold learn; split <;> rfl

/-- No more items are kept than may still be delivered. -/
theorem length_truncate_le (items : List Record) {most : Nat} (h : limit = some most) :
    (c.truncate limit items).length ≤ most - c.consumed := by
  subst h
  exact List.length_take_le _ _

/-- **What becomes of an answer**: a page that was served, one that failed, or an empty one. -/
theorem receive_cases (limit : Limit) (sectionType : String) (answer : PageAnswer) :
    (∃ b next, (c.receive limit sectionType answer).2 = .delivered b next ∧ c.Serves limit b next) ∨
    (∃ b, (c.receive limit sectionType answer).2 = .failed b ∧ c.Fails limit b) ∨
    (∃ last, (c.receive limit sectionType answer).2 = .empty last) := by
  cases answer with
  | refused fault =>
    exact Or.inr (Or.inl ⟨_, rfl, rfl, ⟨_, rfl, rfl, rfl⟩, fun _ _ => Nat.zero_le _⟩)
  | noSection =>
    exact Or.inr (Or.inl ⟨_, rfl, rfl, ⟨_, rfl, rfl, rfl⟩, fun _ _ => Nat.zero_le _⟩)
  | listing s =>
    have hroom : ∀ most, limit = some most →
        ((c.learn s).truncate limit s.items).length ≤ most - c.consumed := by
      intro most hmost
      have h := length_truncate_le (c := c.learn s) s.items hmost
      rwa [learn_consumed] at h
    have hpage : (c.learn s).page = c.page := by rw [page, page, learn_served]
    simp only [receive]
    cases s.failure? with
    | some error =>
      exact Or.inr (Or.inl ⟨_, rfl, hpage, ⟨_, rfl, rfl, rfl⟩, hroom⟩)
    | none =>
      by_cases hitems : ((c.learn s).truncate limit s.items).isEmpty = true
      · rw [if_pos hitems]
        exact Or.inr (Or.inr ⟨_, rfl⟩)
      · rw [if_neg hitems]
        refine Or.inl ⟨_, _, rfl, rfl, rfl, ?_, hroom, ?_, ?_⟩
        · simpa using hitems
        · rw [advance, learn_served]
        · rw [advance, learn_consumed]

end Cursor

namespace Pager

variable {σ : Type} (d : Dispatcher σ) (p : Pager)

/-- **What taking the next batch can give**: nothing at all, a page that was served, or one that
    failed; a batch comes only when more is wanted. -/
theorem pullAt_cases (c : Cursor) (s : σ) :
    (p.pullAt d c s).pulled = .ended ∨ (∃ fault, (p.pullAt d c s).pulled = .broken fault) ∨
    (c.wantsMore p.limit = true ∧
      ((∃ b next, (p.pullAt d c s).pulled = .batch b (some next) ∧ c.Serves p.limit b next) ∨
       (∃ b, (p.pullAt d c s).pulled = .batch b none ∧ c.Fails p.limit b))) := by
  cases hmore : c.wantsMore p.limit with
  | false => exact Or.inl (by simp [pullAt, hmore])
  | true =>
    simp only [pullAt, hmore, if_true]
    cases p.answerOf (d.ask p.query (p.pageSection c) s).reply with
    | error fault => exact Or.inr (Or.inl ⟨fault, rfl⟩)
    | ok answer =>
      rcases c.receive_cases p.limit p.listing.kind.sectionType answer with
        ⟨b, next, hreceived, hserves⟩ | ⟨b, hreceived, hfails⟩ | ⟨last, hreceived⟩
      · exact Or.inr (Or.inr ⟨trivial, Or.inl ⟨b, next, by simp [hreceived, settle], hserves⟩⟩)
      · exact Or.inr (Or.inr ⟨trivial, Or.inr ⟨b, by simp [hreceived, settle], hfails⟩⟩)
      · exact Or.inl (by simp [hreceived, settle])

/-- A batch behind which the pass goes on was served. -/
theorem serves_of_pullAt {c next : Cursor} {s : σ} {b : Batch}
    (h : (p.pullAt d c s).pulled = .batch b (some next)) : c.Serves p.limit b next := by
  rcases p.pullAt_cases d c s with
    hended | ⟨fault, hbroken⟩ | ⟨-, ⟨b', next', hbatch, hserves⟩ | ⟨b', hbatch, -⟩⟩
  · rw [h] at hended; cases hended
  · rw [h] at hbroken; cases hbroken
  · rw [h] at hbatch; cases hbatch; exact hserves
  · rw [h] at hbatch; cases hbatch

/-- A batch that ends the pass has a fault. -/
theorem fails_of_pullAt {c : Cursor} {s : σ} {b : Batch}
    (h : (p.pullAt d c s).pulled = .batch b none) : c.Fails p.limit b := by
  rcases p.pullAt_cases d c s with
    hended | ⟨fault, hbroken⟩ | ⟨-, ⟨b', next', hbatch, -⟩ | ⟨b', hbatch, hfails⟩⟩
  · rw [h] at hended; cases hended
  · rw [h] at hbroken; cases hbroken
  · rw [h] at hbatch; cases hbatch
  · rw [h] at hbatch; cases hbatch; exact hfails

end Pager

/-! ## The batches of a pass

Batches follow each other as long as they are served. -/

/-- A pass that stands at a cursor delivers some batches; then it stands at another cursor, or it is
    over because the last of them has a fault. -/
inductive Pass (limit : Limit) : Cursor → List Batch → Option Cursor → Prop
  | here (c : Cursor) : Pass limit c [] (some c)
  | failed {c : Cursor} {b : Batch} :
      c.wantsMore limit = true → c.Fails limit b → Pass limit c [b] none
  | served {c next : Cursor} {b : Batch} {bs : List Batch} {last : Option Cursor} :
      c.wantsMore limit = true → c.Serves limit b next → Pass limit next bs last →
      Pass limit c (b :: bs) last

namespace Pager

variable {σ : Type} (d : Dispatcher σ) (p : Pager)

/-- A pass that is over gives nothing and asks for nothing. -/
theorem runFrom_none (most : Nat) (s : σ) :
    (p.runFrom d most none s).batches = [] ∧ (p.runFrom d most none s).state = s := by
  cases most <;> exact ⟨rfl, rfl⟩

/-- A request more than there are batches is one that a pass sent because it wanted more and still
    stands where it was. -/
def Unanswered (limit : Limit) (last : Option Cursor) : Prop :=
  ∃ c, last = some c ∧ c.wantsMore limit = true

/-- **Every run is a pass.**  It sends one request for each of its batches and, when it was not
    stopped before, perhaps one more.  By induction on the pulls, for any cursor and any log. -/
theorem runFrom_pass (most : Nat) (c : Cursor) (log : Requests) (s : σ) :
    ∃ last extra, Pass p.limit c (p.runFrom d most (some c) s).batches last ∧
      (p.runFrom d.recorded most (some c) (log, s)).state.1 =
        log ++ (List.range' c.served
          ((p.runFrom d most (some c) s).batches.length + extra)).map p.request ∧
      (extra = 0 ∨ extra = 1 ∧ (p.runFrom d most (some c) s).batches.length < most ∧
        Unanswered p.limit last) := by
  induction most generalizing c log s with
  | zero => exact ⟨some c, 0, Pass.here c, (List.append_nil log).symm, Or.inl rfl⟩
  | succ most ih =>
    -- what a pull that gives no batch sends
    have hnothing : ∃ extra,
        log ++ (if c.wantsMore p.limit then [p.request c.served] else []) =
          log ++ (List.range' c.served extra).map p.request ∧
        (extra = 0 ∨ extra = 1 ∧ 0 < most + 1 ∧ Unanswered p.limit (some c)) := by
      cases hmore : c.wantsMore p.limit with
      | false => exact ⟨0, rfl, Or.inl rfl⟩
      | true => exact ⟨1, rfl, Or.inr ⟨rfl, Nat.succ_pos most, c, rfl, hmore⟩⟩
    simp only [runFrom, pull, pullAt_recorded]
    rcases p.pullAt_cases d c s with
      hended | ⟨fault, hbroken⟩ | ⟨hmore, ⟨b, next, hbatch, hserves⟩ | ⟨b, hbatch, hfails⟩⟩
    · obtain ⟨extra, hlog, hextra⟩ := hnothing
      simp only [hended]
      exact ⟨some c, extra, Pass.here c, by simpa using hlog, hextra⟩
    · obtain ⟨extra, hlog, hextra⟩ := hnothing
      simp only [hbroken]
      exact ⟨some c, extra, Pass.here c, by simpa using hlog, hextra⟩
    · obtain ⟨last, extra, hpass, hlog, hextra⟩ :=
        ih next (log ++ [p.request c.served]) (p.pullAt d c s).state
      simp only [hbatch, hmore, if_true, List.length_cons]
      refine ⟨last, extra, Pass.served hmore hserves hpass, ?_, ?_⟩
      · rw [hlog, hserves.served, List.append_assoc, Nat.add_right_comm, List.range'_succ]
        rfl
      · rcases hextra with hzero | ⟨hone, hlength, hlast⟩
        · exact Or.inl hzero
        · exact Or.inr ⟨hone, Nat.succ_lt_succ hlength, hlast⟩
    · have hrest := p.runFrom_none d most (p.pullAt d c s).state
      have hrecorded := p.runFrom_none d.recorded most
        (log ++ [p.request c.served], (p.pullAt d c s).state)
      simp only [hbatch, hmore, if_true, hrest.1, hrecorded.2]
      exact ⟨none, 0, Pass.failed hmore hfails, rfl, Or.inl rfl⟩

end Pager

end NewsSearch
