import NewsSearch.Proofs.Client.Retrying
import Mathlib.Algebra.Order.Ring.Rat
import Mathlib.Tactic.Linarith
import Mathlib.Tactic.NormNum

/-!
How a request pauses between its attempts.

A pause is the doubled part with a chance part, cut off at the limit.  `leastPause` is the pause
without the chance part.

1. The chance part is not negative and smaller than any doubled part, so the pause after an attempt
   lies between the least pause after this attempt and the one after the next
   (`leastPause_le_pauseAfter`, `pauseAfter_le_leastPause`).
2. So each pause stands on its own step of one staircase, and the steps follow each other.  The
   order of the pauses and their bounds follow from that alone (`OnStairs.backsOff`): a pause is at
   most the end of its step, where the step of a later one begins or has been left behind.
3. The induction is on the attempts left, for a request whose first attempt may have any number
   (`attempts_onStairs`).  It carries the events of the request, in which posts and pauses take
   turns, and the step on which each pause stands (`OnStairs`).  The cases are those of one attempt:
   it settles the request, it was the last, or a pause and the next attempt follow.

The chance parts of the client are at most three tenths of a second.  For the order it would be
enough that they are at most one.

Main statement: `Client.request_backsOff`.
-/

namespace NewsSearch

variable {ω : Type}

/-! ## Posts and pauses

The trace of a session has further events in it, which are left out here. -/

/-- The pauses among some events, in order. -/
def pausesIn (events : List (Event Rat)) : List Rat :=
  events.filterMap fun
    | .paused pause => some pause
    | _ => none

/-- A post or a pause. -/
inductive Beat where
  | post
  | pause (length : Rat)

/-- The posts and the pauses among some events, in order. -/
def beatsIn (events : List (Event Rat)) : List Beat :=
  events.filterMap fun
    | .posted .. => some .post
    | .paused pause => some (.pause pause)
    | _ => none

/-- The events of one request: how its attempts and its pauses follow each other, and how long the
    pauses are. -/
structure BacksOff (events : List (Event Rat)) : Prop where
  /-- There is one attempt more than there are pauses. -/
  attempts : (postsIn events).length = (pausesIn events).length + 1
  /-- One pause lies between any two consecutive attempts, and none behind the last. -/
  turns : beatsIn events = .post :: (pausesIn events).flatMap fun pause => [.pause pause, .post]
  /-- No pause is shorter than one before it. -/
  sorted : (pausesIn events).Pairwise (· ≤ ·)
  /-- A pause is at least one second and at most 20 seconds long. -/
  bounds : ∀ pause ∈ pausesIn events, 1 ≤ pause ∧ pause ≤ 20
  /-- The pauses grow at least as fast as powers of two, up to the limit. -/
  doubling : ∀ (k : Nat) (pause : Rat), (pausesIn events)[k]? = some pause →
    min (2 ^ k) 20 ≤ pause

/-! ## The staircase

Everything about lengths is said of two functions, the pause and its least value. -/

namespace Client

/-- The pause after an attempt without its chance part. -/
def leastPause (attempt : Nat) : Rat := min (2 ^ (attempt - 1)) 20

/-- The steps go up. -/
theorem leastPause_mono {a b : Nat} (h : a ≤ b) : leastPause a ≤ leastPause b := by
  have hpower : (2 : Rat) ^ (a - 1) ≤ 2 ^ (b - 1) := pow_le_pow_right₀ one_le_two (by omega)
  exact min_le_min_right 20 hpower

/-- The lowest step is at one second. -/
theorem one_le_leastPause (attempt : Nat) : 1 ≤ leastPause attempt := by
  have hpower : (1 : Rat) ≤ 2 ^ (attempt - 1) := one_le_pow₀ one_le_two
  exact le_min hpower (by norm_num)

/-- The highest is at 20 seconds. -/
theorem leastPause_le (attempt : Nat) : leastPause attempt ≤ 20 := min_le_right _ _

/-- The pause after an attempt is its doubled part with the chance part, cut off at the limit. -/
theorem pauseAfter_eq (attempt : Nat) (jitter : Rat) :
    pauseAfter attempt jitter = min (2 ^ (attempt - 1) + jitter) 20 := by
  have hdoubled : ((doubled attempt : Nat) : Rat) = 2 ^ (attempt - 1) :=
    Nat.cast_pow 2 (attempt - 1)
  have hlongest : ((longestPause : Nat) : Rat) = 20 := rfl
  show (if ((longestPause : Nat) : Rat) < (doubled attempt : Nat) + jitter
    then ((longestPause : Nat) : Rat) else (doubled attempt : Nat) + jitter) = _
  rw [hdoubled, hlongest]
  split
  · next hlong => exact (min_eq_right hlong.le).symm
  · next hshort => exact (min_eq_left (not_lt.mp hshort)).symm

section Jitter

variable {attempt : Nat} {jitter : Rat}

/-- The chance part does not make a pause shorter. -/
theorem leastPause_le_pauseAfter (hjitter : 0 ≤ jitter) :
    leastPause attempt ≤ pauseAfter attempt jitter := by
  rw [pauseAfter_eq]
  exact min_le_min_right 20 (le_add_of_nonneg_right hjitter)

/-- The chance part does not reach up to the next doubled part, which is at least one second
    more. -/
theorem pauseAfter_le_leastPause (hattempt : 1 ≤ attempt) (hjitter : jitter ≤ 1) :
    pauseAfter attempt jitter ≤ leastPause (attempt + 1) := by
  have hpower : (1 : Rat) ≤ 2 ^ (attempt - 1) := one_le_pow₀ one_le_two
  have hdouble : (2 : Rat) ^ (attempt + 1 - 1) = 2 ^ (attempt - 1) + 2 ^ (attempt - 1) := by
    rw [show attempt + 1 - 1 = attempt - 1 + 1 by omega, pow_succ, mul_two]
  rw [pauseAfter_eq, leastPause, hdouble]
  exact min_le_min_right 20 (by linarith)

end Jitter

end Client

/-! ## The events of a request

What an attempt and a pause add to the trace is put before the events of the further attempts. -/

/-- The chance parts of pauses are not negative and no longer than this. -/
def Surroundings.JittersWithin (net : Surroundings Rat ω) (most : Rat) : Prop :=
  ∀ w, 0 ≤ (net.jitter w).1 ∧ (net.jitter w).1 ≤ most

/-- The events of a request whose first attempt has the given number: posts and pauses take turns,
    and every pause stands on the step of its attempt. -/
structure OnStairs (first : Nat) (events : List (Event Rat)) : Prop where
  attempts : (postsIn events).length = (pausesIn events).length + 1
  turns : beatsIn events = .post :: (pausesIn events).flatMap fun pause => [.pause pause, .post]
  steps : ∀ (k : Nat) (pause : Rat), (pausesIn events)[k]? = some pause →
    Client.leastPause (first + k) ≤ pause ∧ pause ≤ Client.leastPause (first + k + 1)

namespace OnStairs

variable {first : Nat}

/-- A single attempt has no pause. -/
theorem once (asked : Rat) (slept : Option Rat) (started : Rat) (post : Post) :
    OnStairs first [.paced asked slept, .posted started post] :=
  ⟨rfl, rfl, fun _ _ h => by cases h⟩

/-- An attempt and a pause, before the further attempts. -/
theorem again {asked started pause : Rat} {slept : Option Rat} {post : Post}
    {later : List (Event Rat)} (h : OnStairs (first + 1) later)
    (hlow : Client.leastPause first ≤ pause) (hhigh : pause ≤ Client.leastPause (first + 1)) :
    OnStairs first ([.paced asked slept, .posted started post, .paused pause] ++ later) := by
  have hposts : postsIn ([.paced asked slept, .posted started post, .paused pause] ++ later) =
      post :: postsIn later := rfl
  have hpauses : pausesIn ([.paced asked slept, .posted started post, .paused pause] ++ later) =
      pause :: pausesIn later := rfl
  have hbeats : beatsIn ([.paced asked slept, .posted started post, .paused pause] ++ later) =
      .post :: .pause pause :: beatsIn later := rfl
  constructor
  · rw [hposts, hpauses, List.length_cons, List.length_cons, h.attempts]
  · rw [hbeats, hpauses, h.turns]
    rfl
  · intro k p hp
    rw [hpauses] at hp
    cases k with
    | zero =>
      cases hp
      exact ⟨hlow, hhigh⟩
    | succ k =>
      have hstep := h.steps k p hp
      rwa [show first + 1 + k = first + (k + 1) by omega] at hstep

/-- **From the first step on, the staircase gives the order and the bounds of the pauses.** -/
theorem backsOff {events : List (Event Rat)} (h : OnStairs 1 events) : BacksOff events := by
  refine ⟨h.attempts, h.turns, ?_, ?_, ?_⟩
  · rw [List.pairwise_iff_getElem]
    intro i j hi hj hij
    have hearlier := (h.steps i _ (List.getElem?_eq_getElem hi)).2
    have hlater := (h.steps j _ (List.getElem?_eq_getElem hj)).1
    have hstairs : Client.leastPause (1 + i + 1) ≤ Client.leastPause (1 + j) :=
      Client.leastPause_mono (by omega)
    linarith
  · intro pause hpause
    obtain ⟨k, hk⟩ := List.getElem?_of_mem hpause
    obtain ⟨hlow, hhigh⟩ := h.steps k pause hk
    exact ⟨(Client.one_le_leastPause _).trans hlow, hhigh.trans (Client.leastPause_le _)⟩
  · intro k pause hk
    have hlow := (h.steps k pause hk).1
    rwa [Client.leastPause, Nat.add_sub_cancel_left] at hlow

end OnStairs

namespace Client

variable {net : Surroundings Rat ω} (c : Client Rat) (path : String) (post : Post)

/-- The attempts at a request, from the given one on, and the pauses between them are added to the
    trace.  By induction on the retries that are left; a pause stands on the step of the attempt
    before it. -/
theorem attempts_onStairs (hjitter : net.JittersWithin (3 / 10)) {attempt : Nat}
    (hattempt : 1 ≤ attempt) (left : Nat) (s : Session Rat ω) :
    ∃ events, (attempts net c path post attempt left s).session.trace = s.trace ++ events ∧
      OnStairs attempt events := by
  induction left generalizing attempt s with
  | zero =>
    rcases attempts_cases net c path post attempt 0 s with
      ⟨-, -, hsession⟩ | ⟨-, -, hsession, -⟩ | ⟨-, rest, hrest, -⟩
    · exact ⟨_, congrArg Session.trace hsession, .once _ _ _ _⟩
    · exact ⟨_, congrArg Session.trace hsession, .once _ _ _ _⟩
    · cases hrest
  | succ left ih =>
    rcases attempts_cases net c path post attempt (left + 1) s with
      ⟨-, -, hsession⟩ | ⟨-, hleft, -⟩ | ⟨-, rest, hrest, -, hsession⟩
    · exact ⟨_, congrArg Session.trace hsession, .once _ _ _ _⟩
    · cases hleft
    · cases hrest
      obtain ⟨later, htrace, hlater⟩ := ih (Nat.le_add_left 1 attempt)
        (pause net attempt (attemptOnce net post s).2.2).2
      obtain ⟨hpositive, hsmall⟩ := hjitter (attemptOnce net post s).2.2.world
      have hlow : leastPause attempt ≤ pauseAfter attempt _ := leastPause_le_pauseAfter hpositive
      have hhigh := pauseAfter_le_leastPause hattempt (hsmall.trans (by norm_num))
      have hboth : (pause net attempt (attemptOnce net post s).2.2).2.trace = s.trace ++
          [.paced s.clock (s.pacer.wait s.clock).slept, .posted (s.pacer.wait s.clock).now post,
            .paused (pause net attempt (attemptOnce net post s).2.2).1] :=
        List.append_assoc s.trace _ _
      rw [hsession, htrace, hboth, List.append_assoc]
      exact ⟨_, rfl, hlater.again hlow hhigh⟩

/-- **A request backs off between its attempts**, with any number of retries, any payload, any
    outcomes and any chance parts of up to three tenths of a second. -/
theorem request_backsOff {apiKey : Data} {host : String} {minDelay : Rat} {retries : Nat}
    {timeout : Data} {verbose : Bool} {c : Client Rat}
    (hc : make apiKey host minDelay retries timeout verbose = .ok c) {net : Surroundings Rat ω}
    (hjitter : net.JittersWithin (3 / 10)) (path : String) (payload : Record)
    (s : Session Rat ω) :
    ∃ events, (c.request net path payload s).session.trace = s.trace ++ events ∧
      BacksOff events := by
  obtain ⟨-, rfl⟩ := make_eq_ok_iff.mp hc
  obtain ⟨events, htrace, hstairs⟩ :=
    attempts_onStairs _ path _ hjitter (Nat.le_refl 1) retries s
  exact ⟨events, htrace, hstairs.backsOff⟩

/-- An overloaded service, and chance parts as long as they can be. -/
def overloaded : Surroundings Rat Nat where
  post _ n := (.answered 503 "busy", 1, n + 1)
  jitter n := (3 / 10, n)

/-- A client without a key that retries six times. -/
def patientClient : Client Rat :=
  ⟨.null, "http://h", 1, .times 6, .int 60, false, .session⟩

/-- Seven attempts are made, and the last of the six pauses between them is cut off. -/
theorem request_backsOff_overloaded :
    make .null "http://h" 1 (6 : Nat) (.int 60) false = .ok patientClient ∧
      overloaded.JittersWithin (3 / 10) ∧
      let trace := (patientClient.request overloaded "/p" []
        (patientClient.openSession 100 0)).session.trace
      pausesIn trace = [13 / 10, 23 / 10, 43 / 10, 83 / 10, 163 / 10, 20] ∧ BacksOff trace := by
  have hhost : withoutSlashes "http://h" = "http://h" := by decide +kernel
  have hc : make .null "http://h" 1 (6 : Nat) (.int 60) false = .ok patientClient :=
    make_eq_ok_iff.mpr ⟨by decide, by rw [hhost]; rfl⟩
  have hjitter : overloaded.JittersWithin (3 / 10) := fun _ => ⟨by norm_num [overloaded], le_rfl⟩
  refine ⟨hc, hjitter, by decide +kernel, ?_⟩
  obtain ⟨events, htrace, hbacksOff⟩ :=
    request_backsOff hc hjitter "/p" [] (patientClient.openSession 100 0)
  rw [htrace]
  exact hbacksOff

end Client

end NewsSearch
