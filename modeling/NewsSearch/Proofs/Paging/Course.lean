import Mathlib.Data.List.ReduceOption
import NewsSearch.Proofs.Paging.Safety
import NewsSearch.Proofs.Search.Transcript

/-!
The course of a pass: what it hears, and what it makes of it.

`Pass` strings the batches of a pass together and leaves out what the service said.  For many
questions that is too little.  How far a pass goes depends on the totals and page counts that were
reported, and to say which request was the last one wants to speak of the reply to it.  So a
`Course` has both sides: a pass that stands at a cursor hears some replies, one for each of its
requests, delivers some batches, and comes to an ending.

1. `Turn` is one step of it, from one reply to what is pulled.  It has a case for each thing that a
   reply can do: break the pass, end it with an empty page, end it with a failed batch, or serve a
   batch behind which the pass goes on.  It says which section was heard, and what is known of the
   listing afterwards.  `turn_of_pullAt` derives it from the pull, whatever the dispatcher does.
2. `runFrom_course` derives the course from the run, by induction on the pulls.  The replies are
   those in the transcript of the run, and the requests are for the pages behind the cursor, one for
   each reply.  Three runs are followed at once for this: the plain one, the one whose requests are
   recorded, and the one that is written down.
3. What is known of the listing at a cursor is a matter of what was heard.  The total is the first
   one reported (`firstTotal`), and the page count is that of the first section with a total or, as
   long as there is none, of the last section (`governing`).  `Cursor.Reached` ties the cursor to
   the sections heard and the batches delivered so far; one reply keeps it (`Turn.reached`), and so
   it holds at every request of a course (`Course.asked`).
4. The remaining lemmas count: there are as many replies as batches or one more
   (`Course.length_batches_le`, `Course.length_replies_le`), and a page that comes back empty is the
   last one (`Course.eq_length_of_blank`, `Course.exists_blank`).
-/

namespace NewsSearch

/-- **A page came back empty**: its section has no items, and it does not fail either.  An error
    that is the empty text is none. -/
def ResponseSection.IsBlank (s : ResponseSection) : Prop := s.failure? = none ∧ s.items = []

/-! ## What is heard

A reply is what the dispatcher answers to a request, apart from the notes it makes.  To a pass it
says something about the one section that the pass is about. -/

/-- The replies in a transcript, in order. -/
def Transcript.replies (t : Transcript) : List Reply :=
  t.filterMap fun
    | .exchange _ answer => some answer.reply
    | .closing => none

/-- The answer with one page of articles, which may report a total and a page count. -/
def Answer.articles (items : List Record) (total pages : Option Int) : Answer where
  reply := .response [(.text "articles", ⟨.text "articles", items, total, none, pages, none, none⟩)]
  notes := []

/-- What a reply says about a listing of a kind: its section, if it has one. -/
def Reply.section? (kind : ListingKind) : Reply → Option ResponseSection
  | .response r => r.get? kind.sectionType
  | .refused _ | .broken _ => none

namespace Pager

variable {σ : Type}

/-- What a reply says about the listing. -/
def sectionOf (p : Pager) (reply : Reply) : Option ResponseSection :=
  reply.section? p.listing.kind

/-- The replies that come while at most `most` batches of a new pass are taken. -/
def repliesIn (d : Dispatcher σ) (p : Pager) (most : Nat) (s : σ) : List Reply :=
  Transcript.replies (p.run d.transcribed most ([], s)).state.1

/-- What is heard about the listing on the way: for each reply, its section. -/
def heardIn (d : Dispatcher σ) (p : Pager) (most : Nat) (s : σ) : List (Option ResponseSection) :=
  (p.repliesIn d most s).map p.sectionOf

/-- What is heard when page 1 is requested. -/
def firstHeard (d : Dispatcher σ) (p : Pager) (s : σ) : Option ResponseSection :=
  p.sectionOf (d.answer (p.request 0) s).reply

/-- The replies in the exchanges of some answers are those of the answers. -/
theorem replies_exchanges (p : Pager) (served : Nat) (answers : List Answer) :
    Transcript.replies (p.exchanges served answers) = answers.map (·.reply) := by
  induction answers generalizing served with
  | nil => rfl
  | cons a rest ih => exact congrArg (a.reply :: ·) (ih (served + 1))

end Pager

/-! ## One reply

While more is wanted there is room for an item at least.  Hence a page is empty after it has been
cut to the limit only if it was empty before. -/

namespace Cursor

variable {limit : Limit} {c : Cursor}

/-- The cursor after a reply has been heard. -/
def hear (c : Cursor) : Option ResponseSection → Cursor
  | some s => c.learn s
  | none => c

/-- While more is wanted, of some items at least one may still be delivered. -/
theorem truncate_eq_nil_iff (hmore : c.wantsMore limit = true) {items : List Record} :
    c.truncate limit items = [] ↔ items = [] := by
  cases hlimit : limit with
  | none => exact Iff.rfl
  | some most =>
    have hroom : most - c.consumed ≠ 0 := Nat.sub_ne_zero_of_lt (consumed_lt hmore hlimit)
    rw [truncate, List.take_eq_nil_iff]
    exact or_iff_right hroom

/-- What a page reports does not change how many items may still be delivered. -/
theorem truncate_learn (s : ResponseSection) (items : List Record) :
    (c.learn s).truncate limit items = c.truncate limit items := by
  unfold truncate
  rw [learn_consumed]

end Cursor

/-- **A turn**: what one reply makes of a pass that wants more.  It is a break, the end at an empty
    page, a batch with a fault, or a batch without one, behind which the pass goes on. -/
inductive Turn (p : Pager) (c : Cursor) : Reply → Pulled → Prop
  | broken (fault : Fault) : Turn p c (.broken fault) (.broken fault)
  | blank {reply : Reply} {s : ResponseSection} (listed : p.sectionOf reply = some s)
      (blank : s.IsBlank) : Turn p c reply .ended
  | failed {reply : Reply} {b : Batch} (fails : c.Fails p.limit b)
      (total : b.total = (c.hear (p.sectionOf reply)).total)
      (notBlank : ∀ s, p.sectionOf reply = some s → ¬ s.IsBlank) : Turn p c reply (.batch b none)
  | served {reply : Reply} {s : ResponseSection} {b : Batch} (listed : p.sectionOf reply = some s)
      (notBlank : ¬ s.IsBlank) (total : b.total = (c.learn s).total)
      (serves : c.Serves p.limit b ((c.learn s).advance b.items.length)) :
      Turn p c reply (.batch b (some ((c.learn s).advance b.items.length)))

namespace Pager

variable {σ : Type} (d : Dispatcher σ) (p : Pager)

/-- What is pulled while more is wanted depends on the reply, and on nothing else about the
    dispatcher. -/
theorem pulled_of_reply {c : Cursor} (hmore : c.wantsMore p.limit = true) (s : σ) :
    (p.pullAt d c s).pulled =
      match p.answerOf (d.answer (p.request c.served) s).reply with
      | .error fault => .broken fault
      | .ok answer => (settle (c.receive p.limit p.listing.kind.sectionType answer).2).1 := by
  have hreply : (d.answer (p.request c.served) s).reply =
      (d.ask p.query (p.pageSection c) s).reply := rfl
  rw [hreply]
  simp only [pullAt, hmore, if_true]
  cases p.answerOf (d.ask p.query (p.pageSection c) s).reply <;> rfl

/-- **One pull is one turn** on the reply that it hears.  The cases follow the reply: it breaks, it
    is refused, it lacks the section, its section fails, its section is empty, or it serves. -/
theorem turn_of_pullAt {c : Cursor} (hmore : c.wantsMore p.limit = true) (s : σ) :
    Turn p c (d.answer (p.request c.served) s).reply (p.pullAt d c s).pulled := by
  have hpulled := p.pulled_of_reply d hmore s
  generalize (d.answer (p.request c.served) s).reply = reply at hpulled
  cases reply with
  | broken fault =>
    rw [hpulled]
    exact .broken fault
  | refused fault =>
    rw [hpulled]
    exact .failed (p.fails_of_pullAt d hpulled) rfl fun s hs => by cases hs
  | response r =>
    simp only [answerOf] at hpulled
    cases hfound : r.get? p.listing.kind.sectionType with
    | none =>
      have hsection : p.sectionOf (.response r) = none := hfound
      simp only [hfound] at hpulled
      rw [hpulled]
      refine .failed (p.fails_of_pullAt d hpulled) ?_ ?_
      · rw [hsection]
        rfl
      · rw [hsection]
        rintro s ⟨⟩
    | some found =>
      have hsection : p.sectionOf (.response r) = some found := hfound
      simp only [hfound, Cursor.receive] at hpulled
      cases herror : found.failure? with
      | some error =>
        simp only [herror] at hpulled
        rw [hpulled]
        refine .failed (p.fails_of_pullAt d hpulled) ?_ ?_
        · rw [hsection]
          rfl
        · rw [hsection]
          rintro s ⟨⟩ ⟨hnone, -⟩
          rw [herror] at hnone
          cases hnone
      | none =>
        -- the limit alone never makes a page empty, for the pass would not have asked for it
        have hkept : ((c.learn found).truncate p.limit found.items).isEmpty = true ↔
            found.items = [] := by
          rw [List.isEmpty_iff, Cursor.truncate_learn]
          exact Cursor.truncate_eq_nil_iff hmore
        simp only [herror] at hpulled
        by_cases hitems : found.items = []
        · rw [if_pos (hkept.mpr hitems)] at hpulled
          rw [hpulled]
          exact .blank hsection ⟨herror, hitems⟩
        · rw [if_neg (fun h => hitems (hkept.mp h))] at hpulled
          rw [hpulled]
          exact .served hsection (fun h => hitems h.2) rfl (p.serves_of_pullAt d hpulled)

end Pager

/-! ## The course

A course is a row of turns.  Only a served turn is followed by others; each of the rest is the last
one. -/

/-- **A course**: a pass that stands at a cursor hears some replies, delivers some batches, and
    ends. -/
inductive Course (p : Pager) : Cursor → List Reply → List Batch → Ending → Prop
  | stopped (c : Cursor) : Course p c [] [] .stopped
  | sated {c : Cursor} (sated : c.wantsMore p.limit = false) : Course p c [] [] .ended
  | broken {c : Cursor} {reply : Reply} {fault : Fault} (more : c.wantsMore p.limit = true)
      (turn : Turn p c reply (.broken fault)) : Course p c [reply] [] (.broken fault)
  | blank {c : Cursor} {reply : Reply} (more : c.wantsMore p.limit = true)
      (turn : Turn p c reply .ended) : Course p c [reply] [] .ended
  | failed {c : Cursor} {reply : Reply} {b : Batch} {ending : Ending}
      (more : c.wantsMore p.limit = true) (turn : Turn p c reply (.batch b none))
      (finished : ending = .ended ∨ ending = .stopped) : Course p c [reply] [b] ending
  | served {c next : Cursor} {reply : Reply} {b : Batch} {replies : List Reply} {bs : List Batch}
      {ending : Ending} (more : c.wantsMore p.limit = true)
      (turn : Turn p c reply (.batch b (some next))) (rest : Course p next replies bs ending) :
      Course p c (reply :: replies) (b :: bs) ending

namespace Pager

variable {σ : Type} (d : Dispatcher σ) (p : Pager)

/-- A pass that is over ends, unless the caller stops. -/
theorem ending_runFrom_none (most : Nat) (s : σ) :
    (p.runFrom d most none s).ending = .ended ∨ (p.runFrom d most none s).ending = .stopped := by
  cases most
  · exact Or.inr rfl
  · exact Or.inl rfl

/-- **Every run takes a course.**  It sends one request for each reply that it hears, for the pages
    behind the cursor in order, and its transcript has these replies. -/
theorem runFrom_course (most : Nat) (c : Cursor) (sent : Requests) (log : Transcript) (s : σ) :
    ∃ answers : List Answer,
      Course p c (answers.map (·.reply)) (p.runFrom d most (some c) s).batches
        (p.runFrom d most (some c) s).ending ∧
      (p.runFrom d.transcribed most (some c) (log, s)).batches =
        (p.runFrom d most (some c) s).batches ∧
      (p.runFrom d.transcribed most (some c) (log, s)).state.1 =
        log ++ p.exchanges c.served answers ∧
      (p.runFrom d.recorded most (some c) (sent, s)).state.1 =
        sent ++ (List.range' c.served answers.length).map p.request ∧
      ∀ a ∈ answers.head?, a = d.answer (p.request c.served) s := by
  induction most generalizing c sent log s with
  | zero =>
    exact ⟨[], .stopped c, rfl, (List.append_nil log).symm, (List.append_nil sent).symm, by simp⟩
  | succ most ih =>
    cases hmore : c.wantsMore p.limit with
    | false =>
      simp only [runFrom, pull, p.pullAt_sated _ hmore]
      exact ⟨[], .sated hmore, trivial, (List.append_nil log).symm, (List.append_nil sent).symm,
        by simp⟩
    | true =>
      -- the three dispatchers give the same pull on the same answer
      have hturn := p.turn_of_pullAt d hmore s
      obtain ⟨hwritten, -⟩ := p.pullAt_heard d hmore s
      simp only [runFrom, pull, pullAt_recorded, hwritten, Pull.withState, hmore, if_true]
      generalize d.answer (p.request c.served) s = a at hturn hwritten ⊢
      cases hpulled : (p.pullAt d c s).pulled with
      | ended =>
        rw [hpulled] at hturn
        exact ⟨[a], .blank hmore hturn, rfl, rfl, rfl, by simp⟩
      | broken fault =>
        rw [hpulled] at hturn
        exact ⟨[a], .broken hmore hturn, rfl, rfl, rfl, by simp⟩
      | batch b next =>
        rw [hpulled] at hturn
        cases next with
        | none =>
          have hover := p.ending_runFrom_none d most (p.pullAt d c s).state
          obtain ⟨hnone, -⟩ := p.runFrom_none d most (p.pullAt d c s).state
          obtain ⟨hbatches, hlog⟩ := p.runFrom_none d.transcribed most
            (log ++ [.exchange (p.request c.served) a], (p.pullAt d c s).state)
          obtain ⟨-, hsent⟩ := p.runFrom_none d.recorded most
            (sent ++ [p.request c.served], (p.pullAt d c s).state)
          simp only [hnone, hbatches, hlog, hsent]
          exact ⟨[a], .failed hmore hturn hover, trivial, rfl, rfl, by simp⟩
        | some next =>
          have hserved : next.served = c.served + 1 := p.served_of_pullAt d hpulled
          obtain ⟨answers, hcourse, hbatches, hlog, hsent, -⟩ := ih next
            (sent ++ [p.request c.served]) (log ++ [.exchange (p.request c.served) a])
            (p.pullAt d c s).state
          simp only [hbatches, hlog, hsent]
          refine ⟨a :: answers, .served hmore hturn hcourse, trivial, ?_, ?_, by simp⟩
          · rw [hserved, exchanges, List.append_assoc]
            rfl
          · rw [hserved, List.length_cons, List.range'_succ, List.append_assoc]
            rfl

/-- A new pass takes a course, in which it gets one reply for each request. -/
theorem run_course (most : Nat) (s : σ) :
    Course p .start (p.repliesIn d most s) (p.run d most s).batches (p.run d most s).ending ∧
      (p.run d.transcribed most ([], s)).batches = (p.run d most s).batches ∧
      p.requestsIn d most s = (List.range (p.repliesIn d most s).length).map p.request ∧
      ∀ first ∈ (p.heardIn d most s).head?, first = p.firstHeard d s := by
  obtain ⟨answers, hcourse, hbatches, hlog, hsent, hfirst⟩ := p.runFrom_course d most .start [] [] s
  have hreplies : p.repliesIn d most s = answers.map (·.reply) := by
    rw [repliesIn, run, hlog, List.nil_append, replies_exchanges]
  rw [heardIn, hreplies]
  refine ⟨hcourse, hbatches, ?_, ?_⟩
  · rw [List.length_map, List.range_eq_range']
    exact hsent
  · rw [List.map_map, List.head?_map]
    intro first hmem
    obtain ⟨a, ha, rfl⟩ := Option.map_eq_some_iff.mp hmem
    rw [hfirst a ha]
    rfl

/-- One section, or none, is heard for each request. -/
theorem length_heardIn (most : Nat) (s : σ) :
    (p.heardIn d most s).length = (p.requestsIn d most s).length := by
  obtain ⟨-, -, hrequests, -⟩ := p.run_course d most s
  rw [hrequests, List.length_map, List.length_range, heardIn, List.length_map]

end Pager

/-! ## What is known

A cursor learns the first total that is reported and keeps it.  Until then every section replaces
the page count, also by none. -/

/-- The total that some replies report: the first one. -/
def firstTotal (heard : List (Option ResponseSection)) : Option Int :=
  heard.reduceOption.findSome? (·.total)

/-- The section whose page count holds after some replies: the first one that reports a total or,
    when none does, the last one. -/
def governing (heard : List (Option ResponseSection)) : Option ResponseSection :=
  (heard.reduceOption.find? (·.total.isSome)).or heard.reduceOption.getLast?

/-- What some replies and later ones report is what the first ones do, if they do. -/
theorem firstTotal_append (xs ys : List (Option ResponseSection)) :
    firstTotal (xs ++ ys) = (firstTotal xs).or (firstTotal ys) := by
  rw [firstTotal, List.reduceOption_append, List.findSome?_append]
  rfl

/-- A reply without a section reports nothing. -/
theorem firstTotal_concat (heard : List (Option ResponseSection)) (last : Option ResponseSection) :
    firstTotal (heard ++ [last]) = (firstTotal heard).or (last.bind (·.total)) := by
  rw [firstTotal_append]
  cases last with
  | none => rfl
  | some s => cases htotal : s.total <;> simp [firstTotal, htotal]

/-- Another section governs only as long as no total is known. -/
theorem governing_concat (heard : List (Option ResponseSection)) (last : Option ResponseSection) :
    governing (heard ++ [last]) =
      if (firstTotal heard).isSome then governing heard else last.or (governing heard) := by
  have hknown : (firstTotal heard).isSome = (heard.reduceOption.find? (·.total.isSome)).isSome := by
    rw [firstTotal, List.isSome_findSome?, List.isSome_find?]
  rw [hknown, governing, governing, List.reduceOption_append]
  cases hfound : heard.reduceOption.find? (·.total.isSome) with
  | some s => simp [List.find?_append, hfound]
  | none =>
    cases last with
    | none => simp [hfound]
    | some s => cases htotal : s.total <;> simp [List.find?_append, hfound, htotal]

namespace Cursor

/-- What is known of the total after a reply. -/
theorem hear_total (c : Cursor) (heard : Option ResponseSection) :
    (c.hear heard).total = c.total.or (heard.bind (·.total)) := by
  cases heard with
  | none => cases htotal : c.total <;> simp [hear, htotal]
  | some s => cases htotal : c.total <;> simp [hear, learn, htotal]

/-- **Where a pass stands.**  A pass that has heard these sections and delivered these batches
    stands at the cursor. -/
structure Reached (heard : List (Option ResponseSection)) (delivered : List Batch) (c : Cursor) :
    Prop where
  served : c.served = delivered.length
  consumed : c.consumed = (itemsOf delivered).length
  /-- Every batch has brought an item at least. -/
  filled : delivered.length ≤ (itemsOf delivered).length
  total : c.total = firstTotal heard
  pages : c.pages = (governing heard).bind (·.pages)

/-- A new pass stands at the start. -/
theorem reached_start : Reached [] [] .start := ⟨rfl, rfl, Nat.le_refl 0, rfl, rfl⟩

end Cursor

namespace Turn

variable {p : Pager} {c next : Cursor} {reply : Reply} {b : Batch}

/-- The batch of a turn has the total that is known after the reply, and so has the cursor. -/
theorem batch_total {after : Option Cursor} (h : Turn p c reply (.batch b after)) :
    b.total = c.total.or ((p.sectionOf reply).bind (·.total)) ∧
      ∀ next, after = some next → next.total = b.total := by
  rw [← c.hear_total]
  cases h with
  | failed _ total _ => exact ⟨total, nofun⟩
  | served listed _ total _ =>
    rw [listed]
    refine ⟨total, ?_⟩
    rintro next ⟨⟩
    exact total.symm

/-- An empty page gives no batch. -/
theorem not_blank {after : Option Cursor} (h : Turn p c reply (.batch b after))
    {s : ResponseSection} (hs : p.sectionOf reply = some s) : ¬ s.IsBlank := by
  cases h with
  | failed _ _ notBlank => exact notBlank s hs
  | served listed notBlank _ _ =>
    rw [listed] at hs
    cases hs
    exact notBlank

/-- **One turn keeps what is known.**  A pass that is served goes on where it has heard one more
    reply and delivered one more batch. -/
theorem reached (h : Turn p c reply (.batch b (some next)))
    {heard : List (Option ResponseSection)} {delivered : List Batch}
    (hc : c.Reached heard delivered) :
    next.Reached (heard ++ [p.sectionOf reply]) (delivered ++ [b]) := by
  cases h with
  | @served _ s _ listed notBlank total serves =>
    have hitems : b.items.length ≠ 0 := fun h => serves.items (List.length_eq_zero_iff.mp h)
    have hconsumed := serves.consumed
    have hserved := serves.served
    have hall : (itemsOf (delivered ++ [b])).length =
        (itemsOf delivered).length + b.items.length := by
      simp [itemsOf]
    rw [hc.consumed] at hconsumed
    rw [hc.served] at hserved
    refine ⟨?_, ?_, ?_, ?_, ?_⟩
    · rw [hserved, List.length_append]
      rfl
    · rw [hconsumed, hall]
    · -- a batch without items would break this
      have hfilled := hc.filled
      rw [hall, List.length_append, List.length_singleton]
      omega
    · rw [firstTotal_concat, ← hc.total, listed]
      exact c.hear_total (some s)
    · rw [governing_concat, ← hc.total, listed]
      cases htotal : c.total with
      | none => simp [Cursor.advance, Cursor.learn, htotal]
      | some total => simp [Cursor.advance, Cursor.learn, htotal, hc.pages]

end Turn

namespace Course

variable {p : Pager} {c : Cursor} {replies : List Reply} {bs : List Batch} {ending : Ending}

/-- **At every request** the pass wants more where it stands after the replies and the batches
    before.  The induction is on the course, and only a served turn has later requests. -/
theorem asked (h : Course p c replies bs ending) {heard : List (Option ResponseSection)}
    {delivered : List Batch} (hc : c.Reached heard delivered) :
    ∀ j, j < replies.length → ∃ now : Cursor, now.wantsMore p.limit = true ∧
      now.Reached (heard ++ (replies.take j).map p.sectionOf) (delivered ++ bs.take j) ∧
      j ≤ bs.length := by
  induction h generalizing heard delivered with
  | stopped _ | sated _ => intro j hj; exact absurd hj (Nat.not_lt_zero j)
  | @broken c _ _ more _ | @blank c _ more _ | @failed c _ _ _ more _ _ =>
    intro j hj
    obtain rfl : j = 0 := by simpa using hj
    exact ⟨c, more, by simpa using hc, Nat.zero_le _⟩
  | @served c next reply b replies bs _ more turn _ ih =>
    intro j hj
    cases j with
    | zero => exact ⟨c, more, by simpa using hc, Nat.zero_le _⟩
    | succ j =>
      obtain ⟨now, hmore, hnow, hle⟩ := ih (turn.reached hc) j (Nat.lt_of_succ_lt_succ hj)
      refine ⟨now, hmore, ?_, Nat.succ_le_succ hle⟩
      simpa using hnow

/-- Every batch came with a reply. -/
theorem length_batches_le (h : Course p c replies bs ending) : bs.length ≤ replies.length := by
  induction h with
  | stopped _ | sated _ => exact Nat.le_refl 0
  | broken _ _ | blank _ _ => exact Nat.zero_le 1
  | failed _ _ _ => exact Nat.le_refl 1
  | served _ _ _ ih => exact Nat.succ_le_succ ih

/-- At most one reply gives no batch. -/
theorem length_replies_le (h : Course p c replies bs ending) : replies.length ≤ bs.length + 1 := by
  induction h with
  | stopped _ | sated _ => exact Nat.zero_le 1
  | broken _ _ | blank _ _ => exact Nat.le_refl 1
  | failed _ _ _ => exact Nat.le_succ 1
  | served _ _ _ ih => exact Nat.succ_le_succ ih

/-- A page that comes back empty is the one behind the batches. -/
theorem eq_length_of_blank (h : Course p c replies bs ending) {j : Nat} {s : ResponseSection}
    (hheard : (replies.map p.sectionOf)[j]? = some (some s)) (hblank : s.IsBlank) :
    j = bs.length := by
  induction h generalizing j with
  | stopped _ | sated _ => cases hheard
  | broken _ _ | blank _ _ =>
    have hj : j < 1 := (List.getElem?_eq_some_iff.mp hheard).1
    exact Nat.lt_one_iff.mp hj
  | failed _ turn _ =>
    cases j with
    | zero => exact absurd hblank (turn.not_blank (Option.some.inj hheard))
    | succ j => cases hheard
  | served _ turn _ ih =>
    cases j with
    | zero => exact absurd hblank (turn.not_blank (Option.some.inj hheard))
    | succ j => exact congrArg (· + 1) (ih hheard)

/-- A pass that comes to its end after a reply that gave no batch has heard of an empty page. -/
theorem exists_blank (h : Course p c replies bs ending) (hended : ending = .ended)
    (hmore : bs.length < replies.length) :
    ∃ s, some s ∈ replies.map p.sectionOf ∧ s.IsBlank := by
  induction h with
  | stopped _ | broken _ _ => cases hended
  | sated _ => exact absurd hmore (Nat.lt_irrefl 0)
  | failed _ _ _ => exact absurd hmore (Nat.lt_irrefl 1)
  | blank _ turn =>
    cases turn with
    | blank listed blank => exact ⟨_, by simp [listed], blank⟩
  | served _ _ _ ih =>
    obtain ⟨s, hs, hblank⟩ := ih hended (Nat.lt_of_succ_lt_succ hmore)
    exact ⟨s, List.mem_cons_of_mem _ hs, hblank⟩

/-- Only a reply can break a pass. -/
theorem broken_mem (h : Course p c replies bs ending) {fault : Fault}
    (hbroken : ending = .broken fault) : .broken fault ∈ replies := by
  induction h with
  | stopped _ | sated _ | blank _ _ => cases hbroken
  | broken _ turn =>
    cases hbroken
    cases turn
    exact List.mem_singleton_self _
  | failed _ _ finished => rcases finished with rfl | rfl <;> cases hbroken
  | served _ _ _ ih => exact List.mem_cons_of_mem _ (ih hbroken)

end Course

end NewsSearch
