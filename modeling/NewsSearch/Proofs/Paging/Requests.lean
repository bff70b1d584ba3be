import NewsSearch.Paging.Pager

/-!
The requests of a pass.

A run over pages gives batches; the requests it sends on the way show only in the dispatcher.  So
the theory looks at them there: `Dispatcher.recorded` is a dispatcher that writes down every request
and answers as the original does.

* A pull writes down at most one request, namely the one for the page after those that were served
  (`pullAt_recorded`).
* Recording changes nothing else (`runFrom_recorded`, by induction on the pulls), so that the
  requests of a run can be seen without changing it.
* Taking fewer batches of a run gives the first ones of those (`runFrom_batches_take`): a run does
  not know how many its caller will take.
-/

namespace NewsSearch

variable {σ : Type}

/-- The requests that were sent, in order. -/
abbrev Requests := List (Query × Section)

/-- The same dispatcher, which keeps a record of the requests that it is sent. -/
def Dispatcher.recorded (d : Dispatcher σ) : Dispatcher (Requests × σ) where
  ask query wanted state :=
    let answered := d.ask query wanted state.2
    ⟨answered.reply, answered.notes, (state.1 ++ [(query, wanted)], answered.state)⟩

namespace Pager

/-- The request for the page after `served` pages, which is page `served + 1`. -/
def request (p : Pager) (served : Nat) : Query × Section :=
  (p.query, .listing (p.listing.afterPages served))

/-- The requests that are sent while at most `most` batches of a new pass are taken. -/
def requestsIn (d : Dispatcher σ) (p : Pager) (most : Nat) (s : σ) : Requests :=
  (p.run d.recorded most ([], s)).state.1

variable (d : Dispatcher σ) (p : Pager)

/-! ## Recording changes nothing

The log is part of the state of the dispatcher, and no pull looks at that. -/

/-- A pull that is recorded gives what it gives otherwise.  It writes down one request when the pass
    wants more, and none when it does not. -/
theorem pullAt_recorded (c : Cursor) (log : Requests) (s : σ) :
    p.pullAt d.recorded c (log, s) =
      ⟨(p.pullAt d c s).pulled, (p.pullAt d c s).notes,
        (log ++ (if c.wantsMore p.limit then [p.request c.served] else []),
          (p.pullAt d c s).state)⟩ := by
  cases hmore : c.wantsMore p.limit with
  | false => simp [pullAt, hmore]
  | true =>
    simp only [pullAt, hmore, if_true, Dispatcher.recorded]
    cases p.answerOf (d.ask p.query (p.pageSection c) s).reply <;> rfl

/-- What a run gives does not depend on whether its requests are recorded. -/
theorem runFrom_recorded (most : Nat) (pass : Option Cursor) (log : Requests) (s : σ) :
    (p.runFrom d.recorded most pass (log, s)).batches = (p.runFrom d most pass s).batches ∧
      (p.runFrom d.recorded most pass (log, s)).ending = (p.runFrom d most pass s).ending := by
  induction most generalizing pass log s with
  | zero => exact ⟨rfl, rfl⟩
  | succ most ih =>
    cases pass with
    | none => exact ⟨rfl, rfl⟩
    | some c =>
      simp only [runFrom, pull, pullAt_recorded]
      cases (p.pullAt d c s).pulled with
      | ended => exact ⟨rfl, rfl⟩
      | broken fault => exact ⟨rfl, rfl⟩
      | batch b next =>
        obtain ⟨hbatches, hending⟩ := ih next
          (log ++ (if c.wantsMore p.limit then [p.request c.served] else []))
          (p.pullAt d c s).state
        exact ⟨congrArg (b :: ·) hbatches, hending⟩

/-! ## Taking less of a run

A caller may stop at any batch. -/

/-- Taking fewer batches of a pass gives the first ones of those. -/
theorem runFrom_batches_take (pass : Option Cursor) (s : σ) {few most : Nat} (h : few ≤ most) :
    (p.runFrom d few pass s).batches = (p.runFrom d most pass s).batches.take few := by
  induction few generalizing most pass s with
  | zero => rw [List.take_zero, runFrom]
  | succ few ih =>
    obtain ⟨more, rfl⟩ : ∃ more, most = more + 1 := ⟨most - 1, by omega⟩
    simp only [runFrom]
    cases (p.pull d pass s).pulled with
    | ended => rfl
    | broken fault => rfl
    | batch b next =>
      rw [List.take_succ_cons]
      exact congrArg (b :: ·) (ih next _ (by omega))

end Pager

end NewsSearch
