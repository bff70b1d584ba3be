import NewsSearch.Proofs.Client.Attempts
import Mathlib.Algebra.Order.Ring.Rat
import Mathlib.Data.List.Chain
import Mathlib.Tactic.Linarith

/-!
How far apart the posts of a client are.

A service limits how often it may be asked, and a client promises a least delay between any two of
its posts.  There is more than one way in which such a promise can be broken.  A retry may be posted
without asking the pacer, the time a post takes may be counted towards the delay or not, and a
second request may not know of the first.  So the promise is about everything that a client does in
its life, not about one request.

Every attempt asks the pacer of its client before it posts.  `attemptsIn` reads the attempts off a
trace, each with the time at which it asked, the time it slept, and the time at which its post
started; `Spaced` says how they lie in time.  Between two attempts there may be anything that takes
time: the post itself, a pause before a retry, another request altogether, or nothing at all.

The invariant `OnPace` ties the pacer to the trace: the time before which it lets nobody pass is the
start of the last post and the least delay, and the clock is not behind that start.

1. A wait at the pacer has three outcomes: nobody was before, one comes too early, or one comes late
   enough (`Pacer.wait_fresh`, `Pacer.wait_early`, `Pacer.wait_late`).  In each of them the attempt
   that results follows the last one at the right distance (`Spaced.snoc`).
2. An attempt keeps the invariant and adds one attempt (`OnPace.attemptOnce`).  A pause and the time
   in between only move the clock forward (`OnPace.pass`, `OnPace.pause`).
3. So it holds along all attempts at a request, by induction on the attempts that are left
   (`OnPace.attempts`), and along all calls, by induction on these (`life_onPace`).

Times are exact here.  Nothing is said about rounding, and time is only asked not to run backwards.

Main statement: `life_spaced`.
-/

namespace NewsSearch

variable {ω : Type}

/-! ## Attempts in a trace

In a trace an attempt is two events in a row, one of the pacer and one of the post.  Nothing else
belongs to it, so that traces can be cut between attempts. -/

/-- An attempt: when it asked the pacer, how long it slept, if it had to, and when its post
    started. -/
structure Attempt where
  asked : Rat
  slept : Option Rat
  started : Rat

/-- The attempts in a trace: an attempt asks the pacer and then posts. -/
def attemptsIn : List (Event Rat) → List Attempt
  | .paced asked slept :: .posted started _ :: rest => ⟨asked, slept, started⟩ :: attemptsIn rest
  | _ :: rest => attemptsIn rest
  | [] => []

/-- When the posts in a trace started. -/
def startsIn (events : List (Event Rat)) : List Rat :=
  events.filterMap fun
    | .posted started _ => some started
    | _ => none

/-- When the pacer was asked in a trace, and how long it let sleep. -/
def waitsIn (events : List (Event Rat)) : List (Rat × Option Rat) :=
  events.filterMap fun
    | .paced asked slept => some (asked, slept)
    | _ => none

/-- A trace in which every post and every wait belongs to an attempt.  Without this a statement on
    attempts would say nothing about a post that did not wait. -/
def Unbroken (events : List (Event Rat)) : Prop :=
  startsIn events = (attemptsIn events).map (·.started) ∧
    waitsIn events = (attemptsIn events).map fun a => (a.asked, a.slept)

/-- What comes after other events and does not begin with a post has its own attempts. -/
theorem attemptsIn_append (before after : List (Event Rat))
    (h : ∀ time post, after.head? ≠ some (.posted time post)) :
    attemptsIn (before ++ after) = attemptsIn before ++ attemptsIn after := by
  fun_induction attemptsIn before with
  | case1 asked slept started post rest ih => simp [attemptsIn, ih]
  | case2 event rest hnot ih =>
    rw [List.cons_append, attemptsIn, ih]
    intro asked slept started post later hevent hlater
    cases rest with
    | nil => exact h started post (by rw [List.nil_append] at hlater; rw [hlater]; rfl)
    | cons other rest =>
      rw [List.cons_append, List.cons.injEq] at hlater
      exact hnot asked slept started post rest hevent (by rw [hlater.1])
  | case3 => rfl

/-- An attempt is added to a trace by its two events. -/
theorem attemptsIn_attempt (events : List (Event Rat)) (a : Attempt) (post : Post) :
    attemptsIn (events ++ [.paced a.asked a.slept, .posted a.started post]) =
      attemptsIn events ++ [a] :=
  attemptsIn_append events _ fun _ _ h => by cases h

/-- A pause is no attempt. -/
theorem attemptsIn_paused (events : List (Event Rat)) (pause : Rat) :
    attemptsIn (events ++ [.paused pause]) = attemptsIn events :=
  (attemptsIn_append events _ fun _ _ h => by cases h).trans (List.append_nil _)

namespace Unbroken

variable {events : List (Event Rat)}

theorem attempt (h : Unbroken events) (a : Attempt) (post : Post) :
    Unbroken (events ++ [.paced a.asked a.slept, .posted a.started post]) := by
  rw [Unbroken, attemptsIn_attempt, List.map_append, List.map_append, ← h.1, ← h.2]
  exact ⟨List.filterMap_append, List.filterMap_append⟩

theorem paused (h : Unbroken events) (pause : Rat) : Unbroken (events ++ [.paused pause]) := by
  rw [Unbroken, attemptsIn_paused, ← h.1, ← h.2]
  exact ⟨List.filterMap_append.trans (List.append_nil _),
    List.filterMap_append.trans (List.append_nil _)⟩

end Unbroken

/-! ## Attempts in time -/

/-- How an attempt `b` follows the attempt `a` before it.  Both parts together say when it starts:
    neither earlier nor later than it must. -/
structure Follows (minDelay : Rat) (a b : Attempt) : Prop where
  /-- Its post starts when it asks the pacer, or when the least delay after the last post is over,
      whichever is later. -/
  started : b.started = max b.asked (a.started + minDelay)
  /-- It does not sleep when the least delay is over already. -/
  awake : a.started + minDelay ≤ b.asked → b.slept = none

/-- **How attempts lie in time.** -/
structure Spaced (minDelay : Rat) (attempts : List Attempt) : Prop where
  chain : attempts.IsChain (Follows minDelay)
  /-- Any two posts start at least the least delay apart. -/
  apart : attempts.Pairwise fun a b => a.started + minDelay ≤ b.started
  /-- A sleep is what lies between asking and posting, and no longer than the least delay. -/
  sleeps : ∀ a ∈ attempts, a.started = a.asked + a.slept.getD 0 ∧
    ∀ pause, a.slept = some pause → pause ≤ minDelay
  /-- The first attempt does not sleep. -/
  first : ∀ a, attempts.head? = some a → a.slept = none

namespace Spaced

variable {minDelay : Rat} {attempts : List Attempt}

theorem nil : Spaced minDelay [] :=
  ⟨.nil, .nil, fun _ ha => absurd ha List.not_mem_nil, fun _ ha => by cases ha⟩

/-- A first attempt that does not sleep. -/
theorem singleton (minDelay asked : Rat) : Spaced minDelay [⟨asked, none, asked⟩] := by
  refine ⟨.singleton _, List.pairwise_singleton _ _, fun a ha => ?_, fun a ha => ?_⟩
  · rw [List.mem_singleton.mp ha]
    exact ⟨(add_zero asked).symm, fun _ h => by cases h⟩
  · cases ha
    rfl

/-- **One more attempt.**  An attempt that follows the last one is at the right distance from all
    others, since those lie before the last one. -/
theorem snoc {earlier : List Attempt} {a b : Attempt} (h : Spaced minDelay (earlier ++ [a]))
    (hdelay : 0 ≤ minDelay) (hfollows : Follows minDelay a b)
    (hsleep : b.started = b.asked + b.slept.getD 0 ∧
      ∀ pause, b.slept = some pause → pause ≤ minDelay) :
    Spaced minDelay (earlier ++ [a] ++ [b]) := by
  have hnext : a.started + minDelay ≤ b.started := by
    rw [hfollows.started]
    exact le_max_right _ _
  refine ⟨?_, ?_, ?_, ?_⟩
  · refine h.chain.append (.singleton b) fun x hx y hy => ?_
    rw [List.getLast?_concat] at hx
    cases hx
    cases hy
    exact hfollows
  · rw [List.pairwise_append]
    refine ⟨h.apart, List.pairwise_singleton _ _, fun x hx y hy => ?_⟩
    rw [List.mem_singleton.mp hy]
    rcases List.mem_append.mp hx with hx | hx
    · have hlast := (List.pairwise_append.mp h.apart).2.2 x hx a (List.mem_singleton_self a)
      linarith
    · rw [List.mem_singleton.mp hx]
      exact hnext
  · intro x hx
    rcases List.mem_append.mp hx with hx | hx
    · exact h.sleeps x hx
    · rw [List.mem_singleton.mp hx]
      exact hsleep
  · intro x hx
    refine h.first x ?_
    cases earlier with
    | nil => exact hx
    | cons y rest => exact hx

end Spaced

/-! ## The pacer

A pacer knows the time before which nobody may pass, if somebody has passed.  Whoever comes earlier
sleeps until then. -/

/-- A wait is over at once when nobody has to be awaited. -/
theorem Pacer.wait_fresh {p : Pacer Rat} (now : Rat) (h : p.nextAllowed = none) :
    p.wait now = ⟨none, now, { p with nextAllowed := some (now + p.minDelay) }⟩ := by
  simp only [Pacer.wait, Pacer.sleepAt, h]

/-- A wait that begins too early sleeps until the time at which the next one is allowed. -/
theorem Pacer.wait_early {p : Pacer Rat} {now next : Rat} (h : p.nextAllowed = some next)
    (hearly : now < next) :
    p.wait now = ⟨some (next - now), next, { p with nextAllowed := some (next + p.minDelay) }⟩ := by
  have hsleep : p.sleepAt now = some (next - now) := by
    rw [Pacer.sleepAt, h]
    exact if_pos hearly
  have hover : now + (next - now) = next := add_sub_cancel now next
  simp only [Pacer.wait, hsleep]
  show Waited.mk _ (now + (next - now)) ⟨_, some (now + (next - now) + p.minDelay)⟩ = _
  rw [hover]

/-- A wait that begins late enough is over at once. -/
theorem Pacer.wait_late {p : Pacer Rat} {now next : Rat} (h : p.nextAllowed = some next)
    (hlate : next ≤ now) :
    p.wait now = ⟨none, now, { p with nextAllowed := some (now + p.minDelay) }⟩ := by
  have hsleep : p.sleepAt now = none := by
    rw [Pacer.sleepAt, h]
    exact if_neg (not_lt.mpr hlate)
  simp only [Pacer.wait, hsleep]

/-! ## What a client does

Posts take time, pauses take time, and the surroundings say how much. -/

/-- Surroundings in which time does not run backwards: neither posts nor pauses take less than no
    time. -/
structure Surroundings.IsForward (net : Surroundings Rat ω) : Prop where
  duration : ∀ post w, 0 ≤ (net.post post w).2.1
  pause : ∀ attempt w, 0 ≤ Client.pauseAfter attempt (net.jitter w).1

/-- With a chance part that is not negative, a pause takes some time. -/
theorem Client.pauseAfter_nonneg (attempt : Nat) {jitter : Rat} (hjitter : 0 ≤ jitter) :
    0 ≤ pauseAfter attempt jitter := by
  have hdoubled : (0 : Rat) ≤ (doubled attempt : Nat) := Nat.cast_nonneg _
  have hlongest : (0 : Rat) ≤ (longestPause : Nat) := Nat.cast_nonneg _
  show (0 : Rat) ≤ if ((longestPause : Nat) : Rat) < (doubled attempt : Nat) + jitter
    then ((longestPause : Nat) : Rat) else (doubled attempt : Nat) + jitter
  split
  · exact hlongest
  · exact add_nonneg hdoubled hjitter

/-- **The invariant**: a session whose pacer knows the last attempt in its trace, and whose attempts
    lie as they should. -/
structure OnPace (minDelay : Rat) (s : Session Rat ω) : Prop where
  delay : s.pacer.minDelay = minDelay
  next : s.pacer.nextAllowed = (attemptsIn s.trace).getLast?.map fun a => a.started + minDelay
  clock : ∀ a, (attemptsIn s.trace).getLast? = some a → a.started ≤ s.clock
  spaced : Spaced minDelay (attemptsIn s.trace)
  whole : Unbroken s.trace

namespace OnPace

variable {minDelay : Rat} {s : Session Rat ω} {net : Surroundings Rat ω}

/-- Time passes without an attempt, and the clock is even farther ahead. -/
theorem pass (h : OnPace minDelay s) {time : Rat} (htime : 0 ≤ time) :
    OnPace minDelay { s with clock := s.clock + time } :=
  ⟨h.delay, h.next, fun a ha => (h.clock a ha).trans (le_add_of_nonneg_right htime), h.spaced,
    h.whole⟩

/-- A pause is time that passes. -/
theorem pause (h : OnPace minDelay s) (hnet : net.IsForward) (attempt : Nat) :
    OnPace minDelay (Client.pause net attempt s).2 := by
  have hpassed := h.pass (hnet.pause attempt s.world)
  have hsame := attemptsIn_paused s.trace (Client.pauseAfter attempt (net.jitter s.world).1)
  refine ⟨h.delay, ?_, ?_, ?_, h.whole.paused _⟩
  · exact hsame ▸ h.next
  · exact hsame ▸ hpassed.clock
  · exact hsame ▸ h.spaced

/-- An attempt at the right distance is added, and the pacer takes note of it. -/
theorem add (h : OnPace minDelay s) {b : Attempt} (post : Post)
    (hspaced : Spaced minDelay (attemptsIn s.trace ++ [b])) {clock : Rat}
    (hclock : b.started ≤ clock) (w : ω) :
    OnPace minDelay ⟨clock, { s.pacer with nextAllowed := some (b.started + s.pacer.minDelay) }, w,
      s.trace ++ [.paced b.asked b.slept, .posted b.started post]⟩ := by
  have hadded := attemptsIn_attempt s.trace b post
  refine ⟨h.delay, ?_, ?_, ?_, h.whole.attempt b post⟩
  · show some (b.started + s.pacer.minDelay) = _
    rw [hadded, List.getLast?_concat, h.delay]
    rfl
  · intro a ha
    rw [hadded, List.getLast?_concat] at ha
    cases ha
    exact hclock
  · rw [hadded]
    exact hspaced

/-- **An attempt keeps pace.**  It is the first one, or it comes too early and sleeps, or it comes
    late enough and does not. -/
theorem attemptOnce (h : OnPace minDelay s) (hdelay : 0 ≤ minDelay) (hnet : net.IsForward)
    (post : Post) : OnPace minDelay (Client.attemptOnce net post s).2.2 := by
  have hduration := hnet.duration post s.world
  rcases List.eq_nil_or_concat' (attemptsIn s.trace) with hnone | ⟨earlier, last, hsome⟩
  · -- the first attempt of all
    have hfresh : s.pacer.nextAllowed = none := by rw [h.next, hnone]; rfl
    have hspaced : Spaced minDelay (attemptsIn s.trace ++ [⟨s.clock, none, s.clock⟩]) := by
      rw [hnone]
      exact .singleton minDelay s.clock
    simp only [Client.attemptOnce, Pacer.wait_fresh s.clock hfresh]
    exact h.add post hspaced (le_add_of_nonneg_right hduration) _
  · have hnext : s.pacer.nextAllowed = some (last.started + minDelay) := by
      rw [h.next, hsome, List.getLast?_concat]
      rfl
    have hclock : last.started ≤ s.clock := h.clock last (by rw [hsome, List.getLast?_concat])
    have hearlier : Spaced minDelay (earlier ++ [last]) := hsome ▸ h.spaced
    rcases lt_or_ge s.clock (last.started + minDelay) with hearly | hlate
    · -- too early: the attempt sleeps until its post may start
      have hspaced : Spaced minDelay (attemptsIn s.trace ++ [⟨s.clock,
          some (last.started + minDelay - s.clock), last.started + minDelay⟩]) := by
        rw [hsome]
        refine hearlier.snoc hdelay ⟨(max_eq_right hearly.le).symm, fun hover => ?_⟩
          ⟨(add_sub_cancel _ _).symm, fun pause hpause => ?_⟩
        · exact absurd hearly (not_lt.mpr hover)
        · cases hpause
          linarith
      simp only [Client.attemptOnce, Pacer.wait_early hnext hearly]
      exact h.add post hspaced (le_add_of_nonneg_right hduration) _
    · -- late enough: the post starts at once
      have hspaced : Spaced minDelay (attemptsIn s.trace ++ [⟨s.clock, none, s.clock⟩]) := by
        rw [hsome]
        refine hearlier.snoc hdelay ⟨(max_eq_left hlate).symm, fun _ => rfl⟩
          ⟨(add_zero _).symm, fun pause hpause => ?_⟩
        cases hpause
      simp only [Client.attemptOnce, Pacer.wait_late hnext hlate]
      exact h.add post hspaced (le_add_of_nonneg_right hduration) _

/-- So do all attempts at a request, with the pauses between them.  The induction is on the attempts
    that are left, and each time the first one decides whether there is another. -/
theorem attempts (h : OnPace minDelay s) (hdelay : 0 ≤ minDelay) (hnet : net.IsForward)
    (c : Client Rat) (path : String) (post : Post) (attempt left : Nat) :
    OnPace minDelay (Client.attempts net c path post attempt left s).session := by
  have hfirst := h.attemptOnce hdelay hnet post
  induction left generalizing attempt s with
  | zero =>
    rcases Client.attempts_cases net c path post attempt 0 s with ⟨-, -, hsession⟩ |
      ⟨-, -, hsession, -⟩ | ⟨-, rest, hrest, -⟩
    · rw [hsession]; exact hfirst
    · rw [hsession]; exact hfirst
    · cases hrest
  | succ left ih =>
    rcases Client.attempts_cases net c path post attempt (left + 1) s with ⟨-, -, hsession⟩ |
      ⟨-, -, hsession, -⟩ | ⟨-, rest, hrest, -, hsession⟩
    · rw [hsession]; exact hfirst
    · rw [hsession]; exact hfirst
    · cases hrest
      have hpaused := hfirst.pause hnet attempt
      rw [hsession]
      exact ih hpaused (attempt + 1) (hpaused.attemptOnce hdelay hnet post)

/-- A request keeps pace when its client posts through a session. -/
theorem request (h : OnPace minDelay s) (hdelay : 0 ≤ minDelay) (hnet : net.IsForward)
    {c : Client Rat} (hcarrier : c.carrier = .session) (path : String) (payload : Record) :
    OnPace minDelay (c.request net path payload s).session := by
  rw [Client.request, hcarrier]
  cases c.retries with
  | times retries => exact h.attempts hdelay hnet c path _ 1 retries
  | fraction x => exact h

end OnPace

/-! ## The life of a client -/

/-- What may happen to a client: it is asked to send a payload or a query, or nothing happens for
    some time. -/
inductive Call where
  | request (path : String) (payload : Data)
  | query (q : Query) (sections : List Section)
  | idle (time : Rat)

namespace Client

variable (net : Surroundings Rat ω) (c : Client Rat)

/-- The session after a call. -/
def call (s : Session Rat ω) : Call → Session Rat ω
  | .request path payload => (c.requestValue net path payload s).session
  | .query q sections => (c.send net q sections s).session
  | .idle time => { s with clock := s.clock + time }

/-- The session after calls in order. -/
def life (calls : List Call) (s : Session Rat ω) : Session Rat ω := calls.foldl (c.call net) s

/-- A value is sent as a payload, or not at all. -/
theorem requestValue_session (path : String) (payload : Data) (s : Session Rat ω) :
    (c.requestValue net path payload s).session = s ∨
      ∃ entries, (c.requestValue net path payload s).session =
        (c.request net path entries s).session := by
  unfold requestValue
  split
  · exact Or.inr ⟨_, rfl⟩
  · exact Or.inl rfl
  · next entries _ _ =>
    refine Or.inr ⟨entries, ?_⟩
    dsimp only
    split <;> rfl

/-- A query is sent as a payload, or not at all. -/
theorem send_session (q : Query) (sections : List Section) (s : Session Rat ω) :
    (c.send net q sections s).session = s ∨
      ∃ payload, (c.send net q sections s).session =
        (c.request net q.path payload s).session := by
  rw [send]
  cases q.body sections with
  | error fault => exact Or.inl rfl
  | ok payload => exact Or.inr ⟨payload, rfl⟩

variable {net c}

/-- Every call keeps pace. -/
theorem call_onPace {minDelay : Rat} {s : Session Rat ω} (h : OnPace minDelay s)
    (hdelay : 0 ≤ minDelay) (hnet : net.IsForward) (hcarrier : c.carrier = .session) {call : Call}
    (hidle : ∀ time, call = .idle time → 0 ≤ time) : OnPace minDelay (c.call net s call) := by
  cases call with
  | request path payload =>
    rw [Client.call]
    rcases c.requestValue_session net path payload s with hsame | ⟨entries, hsent⟩
    · rw [hsame]; exact h
    · rw [hsent]; exact h.request hdelay hnet hcarrier path entries
  | query q sections =>
    rw [Client.call]
    rcases c.send_session net q sections s with hsame | ⟨payload, hsent⟩
    · rw [hsame]; exact h
    · rw [hsent]; exact h.request hdelay hnet hcarrier q.path payload
  | idle time => exact h.pass (hidle time rfl)

/-- So do calls one after the other, by induction on them. -/
theorem life_onPace {minDelay : Rat} {s : Session Rat ω} (h : OnPace minDelay s)
    (hdelay : 0 ≤ minDelay) (hnet : net.IsForward) (hcarrier : c.carrier = .session)
    {calls : List Call} (hidle : ∀ time, .idle time ∈ calls → 0 ≤ time) :
    OnPace minDelay (c.life net calls s) := by
  induction calls generalizing s with
  | nil => exact h
  | cons call rest ih =>
    have hcall : OnPace minDelay (c.call net s call) :=
      call_onPace h hdelay hnet hcarrier fun time heq => hidle time (heq ▸ List.mem_cons_self)
    exact ih hcall fun time hmem => hidle time (List.mem_cons_of_mem call hmem)

/-- **The life of a client.**  In surroundings in which time does not run backwards, the attempts of
    a client lie in time as they should, whatever it is asked and whatever comes back; and all of
    its posts and all of its waits belong to attempts. -/
theorem life_spaced {apiKey : Data} {host : String} {minDelay : Rat} {retries : Nat}
    {timeout : Data} {verbose : Bool} {c : Client Rat}
    (hc : make apiKey host minDelay retries timeout verbose = .ok c) {net : Surroundings Rat ω}
    (hnet : net.IsForward) {calls : List Call} (hidle : ∀ time, .idle time ∈ calls → 0 ≤ time)
    (clock : Rat) (w : ω) :
    Spaced minDelay (attemptsIn (c.life net calls (c.openSession clock w)).trace) ∧
      Unbroken (c.life net calls (c.openSession clock w)).trace := by
  obtain ⟨hdelay, hmade⟩ := make_eq_ok_iff.mp hc
  have hcarrier : c.carrier = .session := by rw [hmade]
  have hopen : OnPace minDelay (c.openSession clock w) :=
    ⟨by rw [hmade]; rfl, rfl, fun _ ha => (by cases ha), .nil, ⟨rfl, rfl⟩⟩
  have hlife := life_onPace hopen hdelay hnet hcarrier hidle
  exact ⟨hlife.spaced, hlife.whole⟩

/-- An overloaded service that answers every further request. -/
def overloadedOnce : Nat → Arrival
  | 0 => .answered 503 "busy"
  | _ => .answered 200 "\x7b\x7d"

/-- A client that keeps its posts three seconds apart and retries once. -/
def pacedClient : Client Rat :=
  ⟨.null, "http://h", 3, .times 1, .int 60, false, .session⟩

/-- Posts that take a second each.  The retry is kept waiting although there was a pause before it,
    and so is the next request, half a second after the first one is answered. -/
theorem life_spaced_retry :
    make .null "http://h" 3 (1 : Nat) (.int 60) false = .ok pacedClient ∧
      (Surroundings.scripted overloadedOnce 1).IsForward ∧
      let calls : List Call := [.request "/p" (.map []), .idle (1 / 2), .request "/p" (.map [])]
      let trace := (pacedClient.life (.scripted overloadedOnce 1) calls
        (pacedClient.openSession 100 0)).trace
      startsIn trace = [100, 103, 106] ∧ Spaced 3 (attemptsIn trace) ∧ Unbroken trace := by
  have hhost : withoutSlashes "http://h" = "http://h" := by decide +kernel
  have hc : make .null "http://h" 3 (1 : Nat) (.int 60) false = .ok pacedClient :=
    make_eq_ok_iff.mpr ⟨by decide, by rw [hhost]; rfl⟩
  have hnet : (Surroundings.scripted overloadedOnce 1).IsForward :=
    ⟨fun _ _ => zero_le_one, fun attempt _ => pauseAfter_nonneg attempt (le_refl 0)⟩
  refine ⟨hc, hnet, by decide +kernel, life_spaced hc hnet (fun time htime => ?_) 100 0⟩
  have hhalf : time = 1 / 2 := by simpa using htime
  rw [hhalf]
  norm_num

end Client

end NewsSearch
