import NewsSearch.Proofs.Paging.Delivery
import NewsSearch.Proofs.Search.Reporting

/-!
All ways of using a pager agree.

A pager can be used in four ways.  One can take its batches, take its items one by one, be told each
batch in turn, or have a search collect all items.  The four are written as loops of their own
around the same pull, and a pager may be used several times.  This file shows that they all give the
same, and that no use leaves anything behind that a later one could notice.

A pass depends on the limit of its pager, on the kind of its listing and on the replies that it
hears, and on nothing else: not on who replies, nor on what the pager was used for before.  So the
passes are compared by what they face (`Pager.Faces`): asked for one page after the other, the
dispatcher gives these replies.

1. One pull depends on one reply (`pulled_congr`).
2. From one pass that ended follow the batches and the requests of every pass that faces the same
   replies (`Settles`).  The induction is on the pulls of the pass that ended (`exists_settles`),
   with a step for a pass that is over, one for a reply that ends it, and one for a reply with a
   batch.
3. The ways of using a pager differ in what they make of the batches.  Items and outcomes keep the
   last fault that they meet, whereas the fault of a pass is that of its last batch.  These are the
   same, because in a pass only the last batch can have a fault (`Pass.fault_foldl`).
4. The fault of an earlier pass is all that a pager remembers (`afterUses_eq`), and a new pass
   forgets it.  So earlier uses make no difference.
5. Collecting a search makes a pager of its own from the settings.  It sends the same bodies,
   although further parameters that count as false are dropped on the way
   (`NamedSearch.pager_of_made`).

Main statement: `uses_agree`.
-/

namespace NewsSearch

variable {σ τ : Type}

/-! ## Facing replies -/

namespace Pager

/-- Asked for the pages after `served` ones, in order, the dispatcher gives these replies. -/
def Faces (d : Dispatcher σ) (p : Pager) : Nat → σ → List Reply → Prop
  | _, _, [] => True
  | served, s, reply :: rest =>
    (d.answer (p.request served) s).reply = reply ∧
      p.Faces d (served + 1) (d.ask p.query (.listing (p.listing.afterPages served)) s).state rest

/-- **What replies settle.**  Passes that face these replies after `served` pages deliver these
    batches and end, and they send one request for each reply.  This is said of every dispatcher and
    of every pager with the same limit and kind of listing, which is what makes it useful. -/
def Settles (p : Pager) (fuel served : Nat) (pass : Option Cursor) (replies : List Reply)
    (batches : List Batch) : Prop :=
  ∀ {τ : Type} (d : Dispatcher τ) (q : Pager) (more : Nat) (log : Requests) (t : τ),
    q.limit = p.limit → q.listing.kind = p.listing.kind → fuel ≤ more →
    q.Faces d served t replies →
    (q.runFrom d more pass t).batches = batches ∧ (q.runFrom d more pass t).ending = .ended ∧
      (q.runFrom d.recorded more pass (log, t)).state.1 =
        log ++ (List.range' served replies.length).map q.request

variable (d : Dispatcher σ) (p : Pager) {c : Cursor}

/-- The state after a pull that wanted more is the one after its request. -/
theorem pullAt_state (hmore : c.wantsMore p.limit = true) (s : σ) :
    (p.pullAt d c s).state =
      (d.ask p.query (.listing (p.listing.afterPages c.served)) s).state := by
  simp only [pullAt, hmore, if_true, pageSection]
  split <;> rfl

/-- **One pull depends on one reply.**  Two pulls at one cursor give the same when they hear the
    same reply, for pagers with the same limit and the same kind of listing. -/
theorem pulled_congr {d' : Dispatcher τ} {q : Pager} {s : σ} {t : τ} (hlimit : q.limit = p.limit)
    (hkind : q.listing.kind = p.listing.kind) (hmore : c.wantsMore p.limit = true)
    (hreply : (d'.answer (q.request c.served) t).reply =
      (d.answer (p.request c.served) s).reply) :
    (q.pullAt d' c t).pulled = (p.pullAt d c s).pulled := by
  have hmore' : c.wantsMore q.limit = true := by rw [hlimit, hmore]
  have hanswer : ∀ reply, q.answerOf reply = p.answerOf reply := by
    intro reply
    cases reply with
    | response r => rw [answerOf, answerOf, hkind]
    | refused fault | broken fault => rfl
  rw [q.pulled_of_reply d' hmore', p.pulled_of_reply d hmore, hreply, hanswer, hlimit, hkind]

section Steps

variable {d p} {fuel served : Nat} {s : σ} {replies : List Reply}

/-- A pass that is over, or wants no more, hears nothing. -/
theorem Settles.over {pass : Option Cursor} (h : ∀ c ∈ pass, c.wantsMore p.limit = false) :
    p.Settles (fuel + 1) served pass [] [] := by
  intro τ d' q more log t hlimit _ hfuel _
  obtain ⟨k, rfl⟩ := Nat.exists_eq_add_of_lt hfuel
  cases pass with
  | none => exact ⟨rfl, rfl, (List.append_nil log).symm⟩
  | some c =>
    have hsated : c.wantsMore q.limit = false := by rw [hlimit, h c rfl]
    simp only [runFrom, pull, q.pullAt_sated _ hsated]
    exact ⟨trivial, trivial, (List.append_nil log).symm⟩

/-- A pass that ends at a reply hears nothing more. -/
theorem Settles.blank (hmore : c.wantsMore p.limit = true)
    (hpulled : (p.pullAt d c s).pulled = .ended) :
    p.Settles (fuel + 1) c.served (some c) [(d.answer (p.request c.served) s).reply] [] := by
  rintro τ d' q more log t hlimit hkind hfuel ⟨hreply, -⟩
  obtain ⟨k, rfl⟩ := Nat.exists_eq_add_of_lt hfuel
  have hsame := p.pulled_congr d hlimit hkind hmore hreply
  have hmore' : c.wantsMore q.limit = true := by rw [hlimit, hmore]
  simp only [runFrom, pull, pullAt_recorded, hsame, hpulled, hmore', if_true]
  exact ⟨trivial, trivial, rfl⟩

/-- A reply that gives a batch comes before those that settle the rest. -/
theorem Settles.batch {b : Batch} {next : Option Cursor} {bs : List Batch}
    (hmore : c.wantsMore p.limit = true) (hpulled : (p.pullAt d c s).pulled = .batch b next)
    (rest : p.Settles fuel (c.served + 1) next replies bs) :
    p.Settles (fuel + 1) c.served (some c)
      ((d.answer (p.request c.served) s).reply :: replies) (b :: bs) := by
  rintro τ d' q more log t hlimit hkind hfuel ⟨hreply, hrest⟩
  obtain ⟨k, rfl⟩ := Nat.exists_eq_add_of_lt hfuel
  have hsame := p.pulled_congr d hlimit hkind hmore hreply
  have hmore' : c.wantsMore q.limit = true := by rw [hlimit, hmore]
  rw [← q.pullAt_state d' hmore'] at hrest
  obtain ⟨hbatches, hending, hsent⟩ := rest d' q (fuel + k) (log ++ [q.request c.served])
    (q.pullAt d' c t).state hlimit hkind (Nat.le_add_right fuel k) hrest
  simp only [runFrom, pull, pullAt_recorded, hsame, hpulled, hmore', if_true]
  refine ⟨congrArg (b :: ·) hbatches, hending, ?_⟩
  rw [hsent, List.length_cons, List.range'_succ, List.append_assoc]
  rfl

end Steps

/-- A pass that ended has faced some replies, which are those in its transcript, and they settle
    what it delivers. -/
theorem exists_settles (fuel served : Nat) (pass : Option Cursor) (s : σ)
    (hserved : ∀ c ∈ pass, c.served = served)
    (hended : (p.runFrom d fuel pass s).ending = .ended) :
    ∃ replies,
      (∀ log, Transcript.replies (p.runFrom d.transcribed fuel pass (log, s)).state.1 =
        Transcript.replies log ++ replies) ∧
      p.Faces d served s replies ∧
      p.Settles fuel served pass replies (p.runFrom d fuel pass s).batches := by
  induction fuel generalizing served pass s with
  | zero => cases hended
  | succ fuel ih =>
    cases pass with
    | none =>
      exact ⟨[], fun log => (List.append_nil _).symm, trivial, Settles.over (by rintro c ⟨⟩)⟩
    | some c =>
      obtain rfl : c.served = served := hserved c rfl
      cases hmore : c.wantsMore p.limit with
      | false =>
        simp only [runFrom, pull, p.pullAt_sated _ hmore]
        refine ⟨[], fun log => (List.append_nil _).symm, trivial, Settles.over ?_⟩
        rintro c' ⟨⟩
        exact hmore
      | true =>
        obtain ⟨hwritten, -⟩ := p.pullAt_heard d hmore s
        have hheard : ∀ log, Transcript.replies (log ++
            [.exchange (p.request c.served) (d.answer (p.request c.served) s)]) =
            Transcript.replies log ++ [(d.answer (p.request c.served) s).reply] := fun log =>
          List.filterMap_append
        simp only [runFrom, pull, hwritten, Pull.withState] at hended ⊢
        cases hpulled : (p.pullAt d c s).pulled with
        | broken fault =>
          simp only [hpulled] at hended
          cases hended
        | ended => exact ⟨_, hheard, ⟨rfl, trivial⟩, Settles.blank hmore hpulled⟩
        | batch b next =>
          have hnext : ∀ c' ∈ next, c'.served = c.served + 1 := by
            rintro c' rfl
            exact p.served_of_pullAt d hpulled
          simp only [hpulled] at hended
          -- the rest of the pass goes on from the next cursor, which has served one page more
          obtain ⟨replies, hlater, hfaces, hsettles⟩ :=
            ih (c.served + 1) next (p.pullAt d c s).state hnext hended
          rw [p.pullAt_state d hmore] at hfaces
          refine ⟨(d.answer (p.request c.served) s).reply :: replies, ?_, ⟨rfl, hfaces⟩,
            Settles.batch hmore hpulled hsettles⟩
          intro log
          simp only [hlater, hheard, List.append_assoc]
          rfl

/-- What a new pass that ended has delivered and sent is what every pass delivers and sends that
    faces the same replies. -/
theorem settles_run {fuel : Nat} {s : σ} (hended : (p.run d fuel s).ending = .ended) :
    p.Faces d 0 s (p.repliesIn d fuel s) ∧
      p.Settles fuel 0 (some .start) (p.repliesIn d fuel s) (p.run d fuel s).batches := by
  obtain ⟨replies, hheard, hfaces, hsettles⟩ :=
    p.exists_settles d fuel 0 (some .start) s (by rintro c ⟨⟩; rfl) hended
  have hreplies : p.repliesIn d fuel s = replies := hheard []
  rw [hreplies]
  exact ⟨hfaces, hsettles⟩

end Pager

/-! ## Faults

A pass ends at the first batch with a fault, so a fault is always the last thing that happens in it.
-/

/-- The fault of the last of some batches. -/
def finalFault (bs : List Batch) : Option PageFault := bs.getLast?.bind (·.fault)

namespace Pass

variable {limit : Limit} {c : Cursor} {bs : List Batch} {last : Option Cursor}

/-- The last fault met in a pass is that of its last batch.  A batch that is followed by others
    served its page and has none. -/
theorem fault_foldl (h : Pass limit c bs last) :
    bs.foldl (fun fault b => b.fault.or fault) none = finalFault bs := by
  induction h with
  | here c => rfl
  | @failed c b _ _ => exact Option.or_none
  | @served c next b bs last _ hserves _ ih =>
    rw [List.foldl_cons, hserves.fault, Option.or_none, ih, finalFault, finalFault]
    cases bs with
    | nil => exact hserves.fault.symm
    | cons b' rest => rw [List.getLast?_cons_cons]

/-- A pass has a fault at its end unless no batch of it failed. -/
theorem finalFault_eq_none_iff (h : Pass limit c bs last) :
    finalFault bs = none ↔ ∀ b ∈ bs, b.fault = none := by
  constructor
  · intro hnone b hb
    cases hfault : b.fault with
    | none => rfl
    | some f =>
      -- a batch with a fault is the last one
      obtain ⟨j, hj⟩ := List.mem_iff_getElem?.mp hb
      obtain ⟨hlast, -⟩ := h.fault_last j b f hj hfault
      have hget : bs.getLast? = some b := by
        rw [List.getLast?_eq_getElem?, ← hlast, Nat.add_sub_cancel, hj]
      rw [finalFault, hget, Option.bind_some, hfault] at hnone
      cases hnone
  · intro hall
    rw [finalFault, Option.bind_eq_none_iff]
    intro b hb
    exact hall b (List.mem_of_getLast? hb)

end Pass

/-! ## Items and outcomes

Both keep a fault while they go, and replace it by that of the next batch that has one. -/

/-- The items keep the last fault that the pass met, and leave the dispatcher as the batches do. -/
theorem Pager.itemsFrom_fault (d : Dispatcher σ) (p : Pager) (fuel : Nat) (pass : Option Cursor)
    (fault : Option PageFault) (s : σ) :
    (p.itemsFrom d fuel none pass fault s).fault =
        (p.runFrom d fuel pass s).batches.foldl (fun fault b => b.fault.or fault) fault ∧
      (p.itemsFrom d fuel none pass fault s).state = (p.runFrom d fuel pass s).state := by
  induction fuel generalizing pass fault s with
  | zero => exact ⟨rfl, rfl⟩
  | succ fuel ih =>
    simp only [itemsFrom, runFrom]
    cases (p.pull d pass s).pulled with
    | ended | broken _ => exact ⟨rfl, rfl⟩
    | batch b next => exact ih next (b.fault.or fault) (p.pull d pass s).state

/-- An outcome has the items of its batches, in order, and the last fault among them. -/
theorem Outcome.items_foldl (bs : List Batch) (o : Outcome) :
    (bs.foldl add o).items = o.items ++ itemsOf bs ∧
      (bs.foldl add o).fault = bs.foldl (fun fault b => b.fault.or fault) o.fault := by
  induction bs generalizing o with
  | nil => exact ⟨(List.append_nil _).symm, rfl⟩
  | cons b bs ih =>
    obtain ⟨hitems, hfault⟩ := ih (o.add b)
    refine ⟨?_, hfault⟩
    rw [List.foldl_cons, hitems, add, List.append_assoc, itemsOf_cons]

/-! ## Uses

A use is what one caller does with a pager: it takes batches, items or a transcript, and may leave
off before the end. -/

/-- A use of a pager, which goes as far as its caller lets it. -/
inductive Use where
  /-- At most so many batches are taken. -/
  | batches (most : Nat)
  /-- Single items are taken, all of them or as many as wanted. -/
  | items (fuel : Nat) (wanted : Option Nat)
  /-- The caller is told each batch, and the end as well if it wants to be. -/
  | transcript (fuel : Nat) (tellEnd : Bool)

namespace Pager

/-- The pager and the state of the dispatcher after a use. -/
def afterUse (d : Dispatcher σ) (now : Pager × σ) : Use → Pager × σ
  | .batches most => (now.1, (now.1.run d most now.2).state)
  | .items fuel wanted =>
    let taken := now.1.takeItems d fuel wanted now.2
    (taken.2, taken.1.state)
  | .transcript fuel tellEnd => (now.1, (now.1.execute d fuel tellEnd now.2).2.state)

/-- The pager and the state of the dispatcher after some uses, one after the other. -/
def afterUses (d : Dispatcher σ) (p : Pager) (uses : List Use) (s : σ) : Pager × σ :=
  uses.foldl (afterUse d) (p, s)

/-- All that a pager keeps of its uses is a fault.  Taking some of the items and leaving off keeps
    the fault met so far. -/
theorem afterUses_eq (d : Dispatcher σ) (uses : List Use) (now : Pager × σ) :
    ∃ fault, (uses.foldl (afterUse d) now).1 = { now.1 with lastFault := fault } := by
  induction uses generalizing now with
  | nil => exact ⟨now.1.lastFault, rfl⟩
  | cons u rest ih =>
    have hone : ∃ fault, (afterUse d now u).1 = { now.1 with lastFault := fault } := by
      cases u with
      | batches most => exact ⟨now.1.lastFault, rfl⟩
      | transcript fuel tellEnd => exact ⟨now.1.lastFault, rfl⟩
      | items fuel wanted =>
        simp only [afterUse, takeItems]
        split
        · exact ⟨now.1.lastFault, rfl⟩
        · exact ⟨_, rfl⟩
    obtain ⟨first, hfirst⟩ := hone
    obtain ⟨fault, hfault⟩ := ih (afterUse d now u)
    rw [hfirst] at hfault
    exact ⟨fault, hfault⟩

/-- What each way to use a pager up gives: these batches, in its own form, for these requests. -/
structure Delivers (d : Dispatcher σ) (p : Pager) (fuel : Nat) (s : σ) (bs : List Batch)
    (sent : Requests) : Prop where
  batches : (p.run d fuel s).ending = .ended ∧ (p.run d fuel s).batches = bs ∧
    p.requestsIn d fuel s = sent
  /-- The items come one by one, and the pager keeps the fault of the last batch. -/
  items : (p.takeItems d fuel none s).1.ending = .ended ∧
    (p.takeItems d fuel none s).1.items = itemsOf bs ∧
    (p.takeItems d fuel none s).2.lastFault = finalFault bs ∧
    (p.takeItems d.recorded fuel none ([], s)).1.state.1 = sent
  /-- The caller is told each batch once, with its items and its fault, and then once the end. -/
  transcript : ∀ tellEnd, (p.execute d fuel tellEnd s).1 =
      bs.map (fun b => .batch b.items b.fault) ++ (if tellEnd then [.complete] else []) ∧
    (p.execute d.recorded fuel tellEnd ([], s)).2.state.1 = sent

/-- The batches of a run, and the run, are those of a transcript. -/
theorem execute_eq (d : Dispatcher σ) (p : Pager) (fuel : Nat) (tellEnd : Bool) (s : σ) :
    (p.execute d fuel tellEnd s).2 = p.run d fuel s := by
  rw [execute]
  split <;> rfl

/-- Whoever faces the replies is given what they settle, in each of the three forms. -/
theorem Settles.delivers {p : Pager} {fuel : Nat} {replies : List Reply} {bs : List Batch}
    (h : p.Settles fuel 0 (some .start) replies bs) {d : Dispatcher τ} {q : Pager} {more : Nat}
    {t : τ} (hlimit : q.limit = p.limit) (hkind : q.listing.kind = p.listing.kind)
    (hfuel : fuel ≤ more) (hfaces : q.Faces d 0 t replies) :
    q.Delivers d more t bs ((List.range replies.length).map q.request) := by
  obtain ⟨hbatches, hending, hsent⟩ := h d q more [] t hlimit hkind hfuel hfaces
  obtain ⟨hitems, hitemsEnd, -⟩ := q.itemsFrom_all d more (some .start) none t
  obtain ⟨hfault, -⟩ := q.itemsFrom_fault d more (some .start) none t
  obtain ⟨-, hstate⟩ := q.itemsFrom_fault d.recorded more (some .start) none ([], t)
  obtain ⟨last, -, hpass, -⟩ := q.runFrom_pass d more .start [] t
  rw [List.nil_append, ← List.range_eq_range'] at hsent
  rw [hbatches] at hitems hfault hpass
  refine ⟨⟨hending, hbatches, hsent⟩, ⟨hitemsEnd.trans hending, hitems, ?_, ?_⟩, fun tellEnd => ?_⟩
  · exact hfault.trans hpass.fault_foldl
  · rw [← hsent]
    exact congrArg Prod.fst hstate
  · refine ⟨?_, ?_⟩
    · simp only [execute, run, hending, hbatches]
      cases tellEnd
      · exact (List.append_nil _).symm
      · rfl
    · rw [execute_eq]
      exact hsent

end Pager

/-! ## Collecting -/

/-- A request as it is sent: where to, and its body. -/
def sentAs (request : Query × Section) : String × Except Fault Record :=
  (request.1.path, request.1.body [request.2])

/-- The settings of a collection, handed to a pager as they are. -/
def CollectOptions.asGiven (o : CollectOptions) : PagerOptions :=
  { o.pagerOptions with returnInfo := o.returnInfo }

/-- What is collected for a search: the items of these batches and the fault of the last one, for
    requests that are sent like these. -/
structure NamedSearch.Collects (d : Dispatcher σ) (o : CollectOptions) (fuel : Nat)
    (n : NamedSearch) (s : σ) (bs : List Batch) (sent : Requests) : Prop where
  ending : (n.collect d o fuel s).ending = .ended
  items : (n.collect d o fuel s).outcome.items = itemsOf bs
  fault : (n.collect d o fuel s).outcome.fault = finalFault bs
  requests : (n.requestsIn d o fuel s).map sentAs = sent.map sentAs

/-- A body depends on the name of its section and on what the section adds to it. -/
theorem Query.body_congr (q : Query) {a b : Section} (htype : a.sectionType = b.sectionType)
    (hparams : a.params = b.params) : q.body [a] = q.body [b] := by
  have hbody : ∀ base, requestBody base [a] = requestBody base [b] := by
    intro base
    simp only [requestBody, requestBody.withParams, resultTypes, List.isEmpty_cons, htype, hparams]
  cases q with
  | search s =>
    simp only [body, Search.body, List.isEmpty_cons, Bool.false_eq_true, if_false, hbody]
  | lookup l =>
    simp only [body, Lookup.body, List.isEmpty_cons, Bool.false_eq_true, if_false, hbody]

/-- Further parameters that count as false add nothing. -/
theorem Section.params_listing {l : Listing} {a b : Data} (ha : a.truthy = false)
    (hb : b.truthy = false) :
    (Section.listing { l with extra := a }).params =
      (Section.listing { l with extra := b }).params := by
  have hsame : a.optionalEntries = b.optionalEntries := by
    rw [Data.optionalEntries, Data.optionalEntries, ha, hb]
    rfl
  have hown : ({ l with extra := a } : Listing).ownParams =
      ({ l with extra := b } : Listing).ownParams := rfl
  simp only [params, Section.extra, ownParams, hown, hsame]

/-- A search whose settings make a pager has a pager that is the same but for further parameters
    that count as false, and that sends the same. -/
theorem NamedSearch.pager_of_made {n : NamedSearch} {o : CollectOptions} {p : Pager}
    (h : (Pager.ofSearch n.search.subject (.search n.search) o.asGiven).2 = .ok p) :
    ∃ q, (n.pager o).2 = .ok q ∧ q.limit = p.limit ∧ q.listing.kind = p.listing.kind ∧
      ∀ served, sentAs (q.request served) = sentAs (p.request served) := by
  simp only [Pager.ofSearch, if_true, bind_eq_ok_iff] at h
  obtain ⟨size, hsize, limit, hlimit, hp⟩ := h
  cases hp
  refine ⟨⟨.search n.search, Pager.listingOf n.search.subject.listingKind
    (Pager.maxCount_listingKind _) size o.pagerOptions .null, limit, none⟩, ?_, rfl, rfl, ?_⟩
  · simp only [pager, Pager.ofSearch, if_true, bind_eq_ok_iff]
    exact ⟨size, hsize, limit, hlimit, rfl⟩
  · intro served
    cases htruthy : o.returnInfo.truthy with
    | true =>
      have hsame : o.pagerOptions = o.asGiven := by
        simp only [CollectOptions.asGiven, CollectOptions.pagerOptions, htruthy, if_true]
      rw [hsame]
    | false =>
      have hnull : o.pagerOptions.returnInfo.truthy = false := by
        simp only [CollectOptions.pagerOptions, htruthy, Bool.false_eq_true, if_false]
        rfl
      have hparams := @Section.params_listing ((Pager.listingOf n.search.subject.listingKind
        (Pager.maxCount_listingKind _) size o.pagerOptions .null).afterPages served) _ _ hnull
        htruthy
      refine Prod.ext rfl ?_
      show (Query.search n.search).body [_] = (Query.search n.search).body [_]
      exact Query.body_congr _ rfl hparams

/-! ## Agreement -/

/-- **All ways of using a pager agree.**  Take any pass that ended, its batches and the replies that
    it heard.  Whatever the pager was used for before, and however far, whoever faces these replies
    with it is given these batches: as batches, as items, or as a transcript, for the same requests,
    and the fault that is kept is that of the last batch.  Collecting a search with the settings of
    the pager gives the same again.  There is no such fault exactly when no batch failed. -/
theorem uses_agree (p : Pager) (d : Dispatcher σ) (s : σ) {fuel : Nat}
    (hended : (p.run d fuel s).ending = .ended) (d' : Dispatcher τ) {more : Nat}
    (hfuel : fuel ≤ more) :
    p.Faces d 0 s (p.repliesIn d fuel s) ∧
    (∀ (uses : List Use) (first : τ),
      (p.afterUses d' uses first).1.Faces d' 0 (p.afterUses d' uses first).2
        (p.repliesIn d fuel s) →
      (p.afterUses d' uses first).1.Delivers d' more (p.afterUses d' uses first).2
        (p.run d fuel s).batches (p.requestsIn d fuel s)) ∧
    (∀ (n : NamedSearch) (o : CollectOptions),
      (Pager.ofSearch n.search.subject (.search n.search) o.asGiven).2 = .ok p →
      ∃ q, (n.pager o).2 = .ok q ∧ ∀ t : τ, q.Faces d' 0 t (p.repliesIn d fuel s) →
        n.Collects d' o more t (p.run d fuel s).batches (p.requestsIn d fuel s)) ∧
    (finalFault (p.run d fuel s).batches = none ↔
      ∀ b ∈ (p.run d fuel s).batches, b.fault = none) := by
  obtain ⟨hheard, hsettles⟩ := p.settles_run d hended
  obtain ⟨-, -, hrequests, -⟩ := p.run_course d fuel s
  obtain ⟨last, extra, hpass, -⟩ := p.run_pass d s fuel
  refine ⟨hheard, ?_, ?_, hpass.finalFault_eq_none_iff⟩
  · intro uses first hfaces
    obtain ⟨fault, hkept⟩ := Pager.afterUses_eq d' uses (p, first)
    have hsame : (p.afterUses d' uses first).1 = { p with lastFault := fault } := hkept
    rw [hsame] at hfaces ⊢
    rw [hrequests]
    exact hsettles.delivers rfl rfl hfuel hfaces
  · intro n o hmade
    obtain ⟨q, hq, hlimit, hkind, hsent⟩ := NamedSearch.pager_of_made hmade
    refine ⟨q, hq, fun t hfaces => ?_⟩
    obtain ⟨⟨hending, hbatches, hlog⟩, -, -⟩ := hsettles.delivers hlimit hkind hfuel hfaces
    obtain ⟨houtcome, hcollected, -⟩ := NamedSearch.collect_eq d' hq more t
    obtain ⟨hitems, hfault⟩ := Outcome.items_foldl (p.run d fuel s).batches (.empty n)
    rw [hbatches] at houtcome
    refine ⟨hcollected.trans hending, ?_, ?_, ?_⟩
    · rw [houtcome, hitems]
      rfl
    · rw [houtcome, hfault]
      exact hpass.fault_foldl
    · rw [NamedSearch.requestsIn_eq d' hq, hlog, hrequests, List.map_map, List.map_map]
      exact List.map_congr_left fun served _ => hsent served

/-- A search without a name for all articles. -/
def allArticlesSearch : NamedSearch := ⟨none, .unrestricted .articles⟩

/-- Settings for one article on a page. -/
def singly : CollectOptions := { CollectOptions.standard with batchSize := .int 1 }

/-- One item on a page is few enough. -/
theorem single_bounds : 1 ≤ 1 ∧ 1 ≤ maxBatchSize := by decide

/-- A pager with these settings, over all articles. -/
def singlePager : Pager where
  query := .search (.unrestricted .articles)
  listing := Pager.listingOf .articles (Pager.maxCount_listingKind .articles) ⟨1, single_bounds⟩
    singly.asGiven .null
  limit := none
  lastFault := none

/-- The answers with two articles. -/
def twoArticles : List Answer :=
  [.articles [.ofTexts [("uri", .text "a")]] (some 2) none,
    .articles [.ofTexts [("uri", .text "b")]] (some 2) none]

/-- A failure at page 1, and then these answers. -/
def failureFirst : List Answer := ⟨.refused (.reported "out of reach" 1 none), []⟩ :: twoArticles

/-- A pager that has met a failure forgets it: the items of a pass behind it are complete, and so is
    what is collected. -/
theorem uses_agree_after_failure :
    let used := singlePager.afterUses .replay [.items 3 none] failureFirst
    used.1.lastFault.isSome = true ∧
      (singlePager.run .replay 3 twoArticles).ending = .ended ∧
      (used.1.takeItems .replay 3 none used.2).1.items =
        [.ofTexts [("uri", .text "a")], .ofTexts [("uri", .text "b")]] ∧
      (used.1.takeItems .replay 3 none used.2).2.lastFault = none ∧
      allArticlesSearch.Collects .replay singly 3 twoArticles
        (singlePager.run .replay 3 twoArticles).batches
        (singlePager.requestsIn .replay 3 twoArticles) := by
  have hended : (singlePager.run .replay 3 twoArticles).ending = .ended := rfl
  obtain ⟨-, hused, hcollected, -⟩ :=
    uses_agree singlePager .replay twoArticles hended .replay (Nat.le_refl 3)
  have hfaces := hused [.items 3 none] failureFirst ⟨rfl, rfl, trivial⟩
  obtain ⟨q, hq, hall⟩ := hcollected allArticlesSearch singly rfl
  cases hq
  exact ⟨rfl, hended, hfaces.items.2.1, hfaces.items.2.2.1, hall twoArticles ⟨rfl, rfl, trivial⟩⟩

end NewsSearch
