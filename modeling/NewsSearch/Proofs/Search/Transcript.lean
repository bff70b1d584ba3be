import NewsSearch.Proofs.Paging.Pass
import NewsSearch.Search.Connection

/-!
What passes over a connection, and a search run again on it.

`Connection.transcribed` writes down every exchange and every closing, and changes nothing else.
`Dispatcher.replay` knows nothing of the service: it gives the answers of a list, one after the
other.  Collecting a search hears some answers (`Heard`): they are what the transcript gets, as the
exchanges for page 1, page 2 and so on; and on these answers alone the search gives the same
outcome, the same ending and the same notes, and leaves none of them over.

So whatever a search does depends on the service only through what it hears.

1. A pull that wants more depends on one answer, the one to the request for the next page
   (`pullAt_heard`).  A pull that wants no more depends on none (`pullAt_sated`).
2. By induction on the fuel a rest of a pass hears some answers (`exists_heard`).  The answer of a
   pull comes first, and then those that the rest behind it hears; the exchanges are numbered on,
   because a pass that goes on has one page more behind it (`served_of_pullAt`).
3. A whole search hears what its pager hears, and nothing when it has no pager (`exists_answers`).

Main statement: `NamedSearch.exists_answers`.
-/

namespace NewsSearch

variable {σ τ : Type}

/-! ## Transcripts

Writing down is part of the state, so that it can be put under any dispatcher. -/

/-- An answer to a request: the reply, and the notes that were made on the way. -/
structure Answer where
  reply : Reply
  notes : List Note

/-- What passes over a connection. -/
inductive Passage where
  | exchange (request : Query × Section) (answer : Answer)
  | closing

/-- What passed, in order. -/
abbrev Transcript := List Passage

/-- What the dispatcher answers, apart from its state. -/
def Dispatcher.answer (d : Dispatcher σ) (request : Query × Section) (s : σ) : Answer :=
  ⟨(d.ask request.1 request.2 s).reply, (d.ask request.1 request.2 s).notes⟩

/-- The same dispatcher, which writes down every exchange. -/
def Dispatcher.transcribed (d : Dispatcher σ) : Dispatcher (Transcript × σ) where
  ask query wanted state :=
    let answered := d.ask query wanted state.2
    ⟨answered.reply, answered.notes,
      (state.1 ++ [.exchange (query, wanted) (d.answer (query, wanted) state.2)], answered.state)⟩

/-- The same connection, which writes down every exchange and every closing. -/
def Connection.transcribed (c : Connection σ) : Connection (Transcript × σ) where
  dispatcher := c.dispatcher.transcribed
  close state := ((c.close state.2).1, (state.1 ++ [.closing], (c.close state.2).2))

/-- Closing is written down as well. -/
theorem Connection.shut_transcribed (c : Connection σ) (log : Transcript) (s : σ) :
    c.transcribed.shut (log, s) = ((c.shut s).1, (log ++ [.closing], (c.shut s).2)) := by
  simp only [shut, transcribed]
  cases (c.close s).1 <;> rfl

/-- Gives the answers of a list, whatever it is asked; after the last one, responses without
    sections. -/
def Dispatcher.replay : Dispatcher (List Answer) where
  ask _ _ answers :=
    match answers with
    | [] => ⟨.response [], [], []⟩
    | a :: rest => ⟨a.reply, a.notes, rest⟩

/-- The exchanges of a pass after so many pages, when these are the answers. -/
def Pager.exchanges (p : Pager) : Nat → List Answer → Transcript
  | _, [] => []
  | served, a :: rest => .exchange (p.request served) a :: p.exchanges (served + 1) rest

/-! ## One pull

A pull is compared under three dispatchers: the one that answers, the same with its exchanges
written down, and the one that replays.  Their states have different types, so that only the state
may differ. -/

/-- The same pull with another state. -/
def Pull.withState (first : Pull σ) (t : τ) : Pull τ := ⟨first.pulled, first.notes, t⟩

namespace Pager

variable (d : Dispatcher σ) (p : Pager) {c : Cursor}

/-- Whoever answers, a pass that wants no more is over. -/
theorem pullAt_sated (hsated : c.wantsMore p.limit = false) (s : σ) :
    p.pullAt d c s = ⟨.ended, [c.finishNote], s⟩ := by
  rw [pullAt, hsated]
  rfl

/-- **A pull that wants more depends on one answer**: when it is written down, the transcript gets
    this exchange, and when the answer is replayed, the pull gives the same. -/
theorem pullAt_heard (hmore : c.wantsMore p.limit = true) (s : σ) :
    (∀ log, p.pullAt d.transcribed c (log, s) =
      (p.pullAt d c s).withState
        (log ++ [.exchange (p.request c.served) (d.answer (p.request c.served) s)],
          (p.pullAt d c s).state)) ∧
    ∀ rest, p.pullAt .replay c (d.answer (p.request c.served) s :: rest) =
      (p.pullAt d c s).withState rest := by
  have hrequest : p.request c.served = (p.query, p.pageSection c) := rfl
  simp only [pullAt, hmore, if_true, Dispatcher.transcribed, Dispatcher.replay, Dispatcher.answer,
    hrequest]
  cases p.answerOf (d.ask p.query (p.pageSection c) s).reply <;> exact ⟨fun _ => rfl, fun _ => rfl⟩

/-- A pass that goes on has one page more behind it. -/
theorem served_of_pullAt {s : σ} {b : Batch} {next : Cursor}
    (h : (p.pullAt d c s).pulled = .batch b (some next)) : next.served = c.served + 1 :=
  (p.serves_of_pullAt d h).served

end Pager

/-! ## Collecting

The three are compared for whole passes in the same way. -/

/-- The same result of collecting, with another state. -/
def Collected.withState (all : Collected σ) (t : τ) : Collected τ :=
  ⟨all.outcome, all.ending, all.notes, t⟩

namespace NamedSearch

variable (d : Dispatcher σ) (p : Pager)

/-- While the rest of a pass is collected after so many pages, these answers are heard: they are
    written down, and the same is collected when they are given again. -/
structure Heard (fuel served : Nat) (pass : Option Cursor) (o : Outcome) (s : σ)
    (answers : List Answer) : Prop where
  transcribed : ∀ log, collectFrom d.transcribed p fuel pass o (log, s) =
    (collectFrom d p fuel pass o s).withState
      (log ++ p.exchanges served answers, (collectFrom d p fuel pass o s).state)
  replayed : ∀ rest, collectFrom .replay p fuel pass o (answers ++ rest) =
    (collectFrom d p fuel pass o s).withState rest

/-- Nothing is heard when what is collected does not depend on the dispatcher. -/
theorem heard_nil {fuel served : Nat} {pass : Option Cursor} {o : Outcome} {s : σ}
    (h : ∃ ending notes, ∀ {τ : Type} (d' : Dispatcher τ) (t : τ),
      collectFrom d' p fuel pass o t = ⟨o, ending, notes, t⟩) :
    Heard d p fuel served pass o s [] := by
  obtain ⟨ending, notes, hall⟩ := h
  constructor
  · intro log
    rw [hall, hall, Pager.exchanges, List.append_nil]
    rfl
  · intro rest
    rw [hall, hall]
    rfl

/-- **Every rest of a pass hears some answers.**  By induction on the fuel; a pass that is over, or
    wants no more, hears nothing. -/
theorem exists_heard (fuel served : Nat) (pass : Option Cursor) (o : Outcome) (s : σ)
    (hserved : ∀ c ∈ pass, c.served = served) :
    ∃ answers, Heard d p fuel served pass o s answers := by
  induction fuel generalizing served pass o s with
  | zero => exact ⟨[], heard_nil d p ⟨.stopped, [], fun _ _ => rfl⟩⟩
  | succ fuel ih =>
    cases pass with
    | none => exact ⟨[], heard_nil d p ⟨.ended, o.finalNotes, fun _ _ => rfl⟩⟩
    | some c =>
      obtain rfl : c.served = served := hserved c rfl
      cases hmore : c.wantsMore p.limit with
      | false =>
        refine ⟨[], heard_nil d p ⟨.ended, [c.finishNote] ++ o.finalNotes, ?_⟩⟩
        intro τ d' t
        simp only [collectFrom, Pager.pull, p.pullAt_sated d' hmore]
      | true =>
        obtain ⟨hwritten, hagain⟩ := p.pullAt_heard d hmore s
        generalize d.answer (p.request c.served) s = a at hwritten hagain
        cases hpulled : (p.pullAt d c s).pulled with
        | ended | broken fault =>
          refine ⟨[a], ?_, ?_⟩
          · intro log
            simp only [collectFrom, Pager.pull, hwritten, Pull.withState, hpulled]
            rfl
          · intro rest
            simp only [collectFrom, Pager.pull, List.singleton_append, hagain, Pull.withState,
              hpulled]
            rfl
        | batch b next =>
          have hnext : ∀ c' ∈ next, c'.served = c.served + 1 := by
            rintro c' rfl
            exact p.served_of_pullAt d hpulled
          obtain ⟨answers, hrest⟩ :=
            ih (c.served + 1) next (o.add b) (p.pullAt d c s).state hnext
          refine ⟨a :: answers, ?_, ?_⟩
          · intro log
            simp only [collectFrom, Pager.pull, hwritten, Pull.withState, hpulled,
              hrest.transcribed, Pager.exchanges, List.append_assoc, List.singleton_append]
            rfl
          · intro rest
            simp only [collectFrom, Pager.pull, List.cons_append, hagain, Pull.withState, hpulled,
              hrest.replayed]
            rfl

/-- The exchanges of a search when these are the answers. -/
def exchanges (options : CollectOptions) (n : NamedSearch) (answers : List Answer) : Transcript :=
  match (n.pager options).2 with
  | .ok p => p.exchanges 0 answers
  | .error _ => []

/-- A search hears some answers when it is collected: they are what is written down, and on them
    alone it is collected the same. -/
theorem exists_answers (options : CollectOptions) (fuel : Nat) (n : NamedSearch) (s : σ) :
    ∃ answers,
      (∀ log, n.collect d.transcribed options fuel (log, s) =
        (n.collect d options fuel s).withState
          (log ++ n.exchanges options answers, (n.collect d options fuel s).state)) ∧
      ∀ rest, n.collect .replay options fuel (answers ++ rest) =
        (n.collect d options fuel s).withState rest := by
  rcases hpager : n.pager options with ⟨notes, fault | p⟩
  · refine ⟨[], ?_, ?_⟩
    · intro log
      simp only [collect, exchanges, hpager, List.append_nil]
      rfl
    · intro rest
      simp only [collect, hpager]
      rfl
  · obtain ⟨answers, hheard⟩ :=
      exists_heard d p fuel 0 (some .start) (.empty n) s (by rintro c ⟨⟩; rfl)
    refine ⟨answers, ?_, ?_⟩
    · intro log
      simp only [collect, exchanges, hpager, hheard.transcribed]
      rfl
    · intro rest
      simp only [collect, hpager, hheard.replayed]
      rfl

end NamedSearch

end NewsSearch
