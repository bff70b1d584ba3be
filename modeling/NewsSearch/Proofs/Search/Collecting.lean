import NewsSearch.Proofs.Paging.Making
import NewsSearch.Proofs.Paging.Pass
import NewsSearch.Search.Outcome

/-!
Collecting is running.

What is collected for a search is what a run over its pages gives: the batches added up, the ending
and the state of the run (`collectFrom_eq`, by induction on the pulls).  So what is known of runs is
known of collecting, in particular which requests are sent.

* The first request is for page 1, whoever answers, once the pager is made and wants anything at all
  (`head_requestsIn`).  Requests are only ever added to a log (`runFrom_log`), so that the first one
  stays first.
* A search that came to its end, or broke, is collected the same with more fuel (`collect_of_le`):
  fuel stands for the patience of the caller and is no part of the result.
* The items that are collected are among those that the dispatcher gives, and collecting does not
  break when the dispatcher does not (`collect_gives`).  This goes step by step: from the reply to
  what is said about the listing, to the batch, to the pull, and by induction to the outcome.
-/

namespace NewsSearch

variable {σ : Type} (d : Dispatcher σ) (p : Pager)

/-! ## Requests

A pass is followed with the requests written down. -/

namespace Pager

/-- Requests are added to those that were sent before, and none is taken away. -/
theorem runFrom_log (most : Nat) (pass : Option Cursor) (log : Requests) (s : σ) :
    ∃ later, (p.runFrom d.recorded most pass (log, s)).state.1 = log ++ later := by
  cases pass with
  | none =>
    refine ⟨[], ?_⟩
    rw [(p.runFrom_none d.recorded most (log, s)).2, List.append_nil]
  | some c =>
    obtain ⟨last, extra, -, hlog, -⟩ := p.runFrom_pass d most c log s
    exact ⟨_, hlog⟩

/-- **The first request of a pass is for page 1.**  It is sent by the first pull, before anything is
    heard, and whatever is sent later stands behind it. -/
theorem head_requestsIn (most : Nat) (s : σ) (hlimit : p.limit ≠ some 0) :
    (p.requestsIn d (most + 1) s).head? = some (p.request 0) := by
  -- a pass that wants anything begins with one request
  have hmore := Cursor.wantsMore_start.mpr hlimit
  have hfirst : p.pullAt d.recorded Cursor.start ([], s) =
      ⟨(p.pullAt d Cursor.start s).pulled, (p.pullAt d Cursor.start s).notes,
        ([p.request 0], (p.pullAt d Cursor.start s).state)⟩ := by
    rw [pullAt_recorded, hmore]
    rfl
  simp only [requestsIn, run, runFrom, pull, hfirst]
  cases (p.pullAt d Cursor.start s).pulled with
  | ended => rfl
  | broken fault => rfl
  | batch b next =>
    -- the pass goes on, and only adds to the log
    obtain ⟨later, hlater⟩ := p.runFrom_log d most next [p.request 0] (p.pullAt d .start s).state
    simp only [hlater]
    rfl

end Pager

/-! ## Outcomes

An outcome is what the batches of a pass add up to. -/

namespace NamedSearch

/-- The outcome has the batches of the run added up, to what there was before.  Both recursions pull
    in the same way, so that the induction has one case for each result of a pull. -/
theorem collectFrom_eq (fuel : Nat) (pass : Option Cursor) (o : Outcome) (s : σ) :
    (collectFrom d p fuel pass o s).outcome =
        (p.runFrom d fuel pass s).batches.foldl Outcome.add o ∧
      (collectFrom d p fuel pass o s).ending = (p.runFrom d fuel pass s).ending ∧
      (collectFrom d p fuel pass o s).state = (p.runFrom d fuel pass s).state := by
  induction fuel generalizing pass o s with
  | zero => exact ⟨rfl, rfl, rfl⟩
  | succ fuel ih =>
    simp only [collectFrom, Pager.runFrom]
    cases (p.pull d pass s).pulled with
    | ended => exact ⟨rfl, rfl, rfl⟩
    | broken fault => exact ⟨rfl, rfl, rfl⟩
    | batch b next => exact ih next (o.add b) (p.pull d pass s).state

/-- A search is collected by a new run of its pager. -/
theorem collect_eq {options : CollectOptions} {n : NamedSearch} {p : Pager}
    (h : (n.pager options).2 = .ok p) (fuel : Nat) (s : σ) :
    (n.collect d options fuel s).outcome =
        (p.run d fuel s).batches.foldl Outcome.add (.empty n) ∧
      (n.collect d options fuel s).ending = (p.run d fuel s).ending ∧
      (n.collect d options fuel s).state = (p.run d fuel s).state := by
  rw [collect]
  split
  · -- no pager could be made, which is excluded
    next notes fault heq =>
    rw [heq] at h
    cases h
  · next notes p' heq =>
    rw [heq] at h
    cases h
    exact collectFrom_eq d p fuel (some .start) (.empty n) s

/-- The requests that are sent while a search is collected. -/
def requestsIn (d : Dispatcher σ) (options : CollectOptions) (fuel : Nat) (n : NamedSearch)
    (s : σ) : Requests :=
  (n.collect d.recorded options fuel ([], s)).state.1

/-- They are those of its pager. -/
theorem requestsIn_eq {options : CollectOptions} {fuel : Nat} {n : NamedSearch} {s : σ} {p : Pager}
    (h : (n.pager options).2 = .ok p) :
    n.requestsIn d options fuel s = p.requestsIn d fuel s :=
  congrArg Prod.fst (collect_eq d.recorded h fuel ([], s)).2.2

/-! ## More fuel

A run that has ended does not pull again. -/

/-- A pass that was not stopped is collected the same with more fuel. -/
theorem collectFrom_add {fuel : Nat} (more : Nat) {pass : Option Cursor} {o : Outcome} {s : σ}
    (h : (collectFrom d p fuel pass o s).ending ≠ .stopped) :
    collectFrom d p (fuel + more) pass o s = collectFrom d p fuel pass o s := by
  induction fuel generalizing pass o s with
  | zero => exact absurd rfl h
  | succ fuel ih =>
    rw [Nat.add_right_comm]
    simp only [collectFrom] at h ⊢
    cases hpulled : (p.pull d pass s).pulled with
    | ended | broken fault => rfl
    | batch b next =>
      simp only [hpulled] at h ⊢
      -- the first pull is the same, and the rest was not stopped either
      rw [ih h]

/-- So is a whole search, once the fuel is enough for it. -/
theorem collect_of_le {options : CollectOptions} {fuel enough : Nat} (hle : enough ≤ fuel)
    {n : NamedSearch} {s : σ} (h : (n.collect d options enough s).ending ≠ .stopped) :
    n.collect d options fuel s = n.collect d options enough s := by
  obtain ⟨more, rfl⟩ := Nat.exists_eq_add_of_le hle
  rcases hpager : n.pager options with ⟨notes, fault | p⟩
  · -- without a pager nothing is pulled
    simp only [collect, hpager]
  · simp only [collect, hpager] at h ⊢
    rw [collectFrom_add d p more h]

end NamedSearch

/-! ## What is collected

A property of items is carried from the replies of the dispatcher to what is collected. -/

/-- The items in a reply are such, and the dispatcher did not break. -/
inductive Reply.Gives (P : Record → Prop) : Reply → Prop
  | response {r : Response} (items : ∀ e ∈ r, ∀ item ∈ e.2.items, P item) : Gives P (.response r)
  | refused (fault : DispatchFault) : Gives P (.refused fault)

/-- Whatever it is asked, the dispatcher answers or refuses, with such items. -/
def Dispatcher.Gives (P : Record → Prop) (d : Dispatcher σ) : Prop :=
  ∀ query wanted s, (d.ask query wanted s).reply.Gives P

/-- The items of a batch stand in the section that was received.  Some of them may have been cut
    off, and a batch that only reports a failure has none. -/
theorem Cursor.items_of_receive {limit : Limit} {sectionType : String} {c : Cursor}
    {answer : PageAnswer} {b : Batch}
    (h : (∃ next, (c.receive limit sectionType answer).2 = .delivered b next) ∨
      (c.receive limit sectionType answer).2 = .failed b) :
    ∀ item ∈ b.items, ∃ s, answer = .listing s ∧ item ∈ s.items := by
  intro item hitem
  cases answer with
  | refused fault | noSection =>
    rcases h with ⟨next, h⟩ | h
    · cases h
    · cases h
      cases hitem
  | listing s =>
    refine ⟨s, rfl, ?_⟩
    -- the batch has the items of the section, as many as the limit leaves
    have hkept : b.items = (c.learn s).truncate limit s.items := by
      simp only [receive] at h
      cases herror : s.failure? with
      | some error =>
        simp only [herror] at h
        rcases h with ⟨next, h⟩ | h
        · cases h
        · cases h
          rfl
      | none =>
        simp only [herror] at h
        split at h
        · rcases h with ⟨next, h⟩ | h <;> cases h
        · rcases h with ⟨next, h⟩ | h
          · cases h
            rfl
          · cases h
    rw [hkept] at hitem
    cases limit with
    | none => exact hitem
    | some most => exact List.mem_of_mem_take hitem

section Gives

variable {P : Record → Prop} {d}

/-- A reply with such items says something about the listing, with such items: of the sections in it
    only one is looked at. -/
theorem Pager.answerOf_gives {reply : Reply} (h : reply.Gives P) :
    ∃ answer, p.answerOf reply = .ok answer ∧
      ∀ found, answer = .listing found → ∀ item ∈ found.items, P item := by
  cases h with
  | refused fault => exact ⟨_, rfl, fun _ h => by cases h⟩
  | @response r hitems =>
    refine ⟨_, rfl, ?_⟩
    intro found hfound
    -- one section of the answer is the one that was asked for, or none is
    split at hfound
    · next s hs =>
      cases hfound
      obtain ⟨e, he, rfl⟩ := Option.map_eq_some_iff.mp hs
      exact hitems e (List.mem_of_find?_eq_some he)
    · cases hfound

/-- **A pull gives only items that the dispatcher gives, and does not break.** -/
theorem Pager.pull_gives (hd : d.Gives P) (pass : Option Cursor) (s : σ) :
    (∀ fault, (p.pull d pass s).pulled ≠ .broken fault) ∧
      ∀ b next, (p.pull d pass s).pulled = .batch b next → ∀ item ∈ b.items, P item := by
  cases pass with
  | none => exact ⟨by simp [pull], by simp [pull]⟩
  | some c =>
    simp only [pull, pullAt]
    split
    · obtain ⟨answer, hanswer, hgiven⟩ :=
        p.answerOf_gives (hd p.query (p.pageSection c) s)
      -- whether it is delivered or reports a failure, the items of a batch come from the answer
      have hitems : ∀ b, ((∃ next, (c.receive p.limit p.listing.kind.sectionType answer).2 =
          .delivered b next) ∨ (c.receive p.limit p.listing.kind.sectionType answer).2 =
            .failed b) → ∀ item ∈ b.items, P item := by
        intro b hb item hitem
        obtain ⟨found, hfound, hmem⟩ := Cursor.items_of_receive hb item hitem
        exact hgiven found hfound item hmem
      simp only [hanswer]
      cases hreceived : (c.receive p.limit p.listing.kind.sectionType answer).2 with
      | delivered b next =>
        refine ⟨by simp [settle], ?_⟩
        rintro b' next' ⟨⟩
        exact hitems b (Or.inl ⟨next, hreceived⟩)
      | failed b =>
        refine ⟨by simp [settle], ?_⟩
        rintro b' next' ⟨⟩
        exact hitems b (Or.inr hreceived)
      | empty last => exact ⟨by simp [settle], by simp [settle]⟩
    · -- nothing more is wanted, and nothing is asked
      exact ⟨by simp, by simp⟩

/-- So does collecting, by induction on the pulls. -/
theorem NamedSearch.collectFrom_gives (hd : d.Gives P) (fuel : Nat) (pass : Option Cursor)
    {o : Outcome} (ho : ∀ item ∈ o.items, P item) (s : σ) :
    (∀ fault, (collectFrom d p fuel pass o s).ending ≠ .broken fault) ∧
      ∀ item ∈ (collectFrom d p fuel pass o s).outcome.items, P item := by
  induction fuel generalizing pass o s with
  | zero => exact ⟨by simp [collectFrom], ho⟩
  | succ fuel ih =>
    obtain ⟨hbroken, hitems⟩ := p.pull_gives hd pass s
    simp only [collectFrom]
    cases hpulled : (p.pull d pass s).pulled with
    | ended => exact ⟨by simp, ho⟩
    | broken fault => exact absurd hpulled (hbroken fault)
    | batch b next =>
      exact ih next (List.forall_mem_append.mpr ⟨ho, hitems b next hpulled⟩) _

/-- Adding batches changes neither the name nor the search of an outcome. -/
theorem NamedSearch.collectFrom_search (fuel : Nat) (pass : Option Cursor) (o : Outcome) (s : σ) :
    (collectFrom d p fuel pass o s).outcome.search = o.search := by
  induction fuel generalizing pass o s with
  | zero => rfl
  | succ fuel ih =>
    simp only [collectFrom]
    cases (p.pull d pass s).pulled with
    | ended | broken fault => rfl
    | batch b next => exact ih next (o.add b) _

/-- Collecting a search is about that search, also when no pager could be made. -/
theorem NamedSearch.collect_search (options : CollectOptions) (fuel : Nat) (n : NamedSearch)
    (s : σ) :
    (n.collect d options fuel s).outcome.search = n := by
  rcases hpager : n.pager options with ⟨notes, fault | p⟩
  · simp only [collect, hpager, Outcome.empty]
  · simp only [collect, hpager]
    exact collectFrom_search p fuel _ _ s

/-- A search with a pager is collected without a break, with items that the dispatcher gives. -/
theorem NamedSearch.collect_gives (hd : d.Gives P) {options : CollectOptions} {n : NamedSearch}
    (hp : ∃ p, (n.pager options).2 = .ok p) (fuel : Nat) (s : σ) :
    (∀ fault, (n.collect d options fuel s).ending ≠ .broken fault) ∧
      ∀ item ∈ (n.collect d options fuel s).outcome.items, P item := by
  obtain ⟨p, hp⟩ := hp
  rcases hpager : n.pager options with ⟨notes, fault | p'⟩
  · rw [hpager] at hp
    cases hp
  · have hnone : ∀ item ∈ (Outcome.empty n).items, P item := fun item h => absurd h List.not_mem_nil
    simp only [collect, hpager]
    exact collectFrom_gives p' hd fuel (some .start) hnone s

end Gives

end NewsSearch
