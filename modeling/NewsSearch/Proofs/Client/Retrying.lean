import NewsSearch.Proofs.Client.Attempts

/-!
How a request that may fail is retried.

A request looks at what comes back, attempt after attempt.  The first outcome that is not transient
decides, provided that there are retries enough to see it; if all of them come back transient, the
request is exhausted.  `RetryContract` says this for any number of retries and any outcomes in
store, together with the posts that show in the trace.

The contract is proved by induction on the attempts left, for a request that begins with any
attempt.  One attempt leads to one of three cases, and each has its lemma.

* The attempt settled the request: no outcome behind it matters (`RetryContract.of_settled`).
* It was the only one and came back transient: all outcomes in store within the retries are
  (`RetryContract.of_exhausted`).
* It came back transient, and the attempts left face the outcomes in store from the second one on
  (`RetryContract.of_again`).  Their contract is the hypothesis of the induction, with everything
  counted from one further.

Main statement: `Client.request_contract`.
-/

namespace NewsSearch

variable {ω : Type}

/-- The posts among some events, in order. -/
def postsIn (events : List (Event Rat)) : List Post :=
  events.filterMap fun
    | .posted _ post => some post
    | _ => none

/-- The posts among events are those before some point and those after it. -/
theorem postsIn_append (before after : List (Event Rat)) :
    postsIn (before ++ after) = postsIn before ++ postsIn after :=
  List.filterMap_append

/-- The fault of an attempt that a dispatch fault goes back to, when the attempts were used up. -/
def DispatchFault.cause? : DispatchFault → Option TransientFault
  | exhausted _ _ last => some last
  | _ => none

/-- What is promised of a request whose first attempt has the number `first` and which may be
    retried `retries` times, when `arrival 0`, `arrival 1`, … is what the attempts have in store. -/
structure RetryContract (first retries : Nat) (post : Post) (arrival : Nat → Arrival)
    (before : Session Rat ω) (sent : Exchanged Rat ω Record) : Prop where
  /-- The first outcome that is not transient settles the request, and nothing is posted after it.
      -/
  decided : ∀ n ≤ retries, (∀ j < n, (arrival j).IsTransient) → ¬ (arrival n).IsTransient →
    postsIn sent.session.trace = postsIn before.trace ++ List.replicate (n + 1) post ∧
      (arrival n).Settles (first + n) sent.outcome
  /-- When no attempt comes back otherwise, all of them are made, and the request fails with the
      number of attempts, the last status, and the last transient fault as its cause. -/
  exhausted : (∀ j ≤ retries, (arrival j).IsTransient) →
    postsIn sent.session.trace = postsIn before.trace ++ List.replicate (retries + 1) post ∧
      ∃ fault last, sent.outcome = .error (.dispatch fault) ∧
        fault.attempts = (first + retries : Nat) ∧ fault.code? = (arrival retries).status? ∧
        fault.cause? = some last
  /-- A request fails with a dispatch fault or not at all. -/
  faults : ∀ fault, sent.outcome = .error fault → ∃ reason, fault = .dispatch reason

/-- What settles a request is an object or a dispatch fault. -/
theorem Arrival.Settles.dispatch {a : Arrival} {attempt : Nat} {outcome : Except Fault Record}
    (h : a.Settles attempt outcome) {fault : Fault} (hfault : outcome = .error fault) :
    ∃ reason, fault = .dispatch reason := by
  by_cases hsound : ∃ body, a.object? = some body ∧ Record.get? "error" body = none
  · obtain ⟨body, hbody, herror⟩ := hsound
    have hok := h.success body hbody herror
    rw [hfault] at hok
    cases hok
  · obtain ⟨reason, hreason, -⟩ := h.failure fun body hbody =>
      Option.isSome_iff_ne_none.mpr fun herror => hsound ⟨body, hbody, herror⟩
    rw [hfault] at hreason
    exact ⟨reason, Except.error.inj hreason⟩

namespace RetryContract

variable {first retries : Nat} {post : Post} {arrival : Nat → Arrival} {before : Session Rat ω}
  {sent : Exchanged Rat ω Record}

/-- The first attempt settled the request. -/
theorem of_settled (hsettled : ¬ (arrival 0).IsTransient)
    (hsettles : (arrival 0).Settles first sent.outcome)
    (hposts : postsIn sent.session.trace = postsIn before.trace ++ [post]) :
    RetryContract first retries post arrival before sent := by
  refine ⟨fun n _ hearlier _ => ?_, fun hall => ?_, fun fault hfault => hsettles.dispatch hfault⟩
  · cases n with
    | zero => exact ⟨hposts, hsettles⟩
    | succ n => exact absurd (hearlier 0 (Nat.succ_pos n)) hsettled
  · exact absurd (hall 0 (Nat.zero_le retries)) hsettled

/-- The only attempt came back transient. -/
theorem of_exhausted {path : String} {last : TransientFault} (htransient : (arrival 0).IsTransient)
    (houtcome : sent.outcome = .error (.dispatch (.exhausted path first last)))
    (hcode : last.code? = (arrival 0).status?)
    (hposts : postsIn sent.session.trace = postsIn before.trace ++ [post]) :
    RetryContract first 0 post arrival before sent := by
  refine ⟨fun n hn _ hsettled => ?_, fun _ => ?_, fun fault hfault => ?_⟩
  · rw [Nat.le_zero.mp hn] at hsettled
    exact absurd htransient hsettled
  · exact ⟨hposts, _, last, houtcome, rfl, hcode, rfl⟩
  · rw [houtcome] at hfault
    exact ⟨_, (Except.error.inj hfault).symm⟩

/-- The first attempt came back transient, and the request went on from the next one.  What its
    contract promises for the outcomes from the second one on is promised here for all of them, with
    one post more. -/
theorem of_again {between : Session Rat ω} (htransient : (arrival 0).IsTransient)
    (hposts : postsIn between.trace = postsIn before.trace ++ [post])
    (hrest : RetryContract (first + 1) retries post (fun n => arrival (n + 1)) between sent) :
    RetryContract first (retries + 1) post arrival before sent := by
  have hcount : ∀ n, postsIn between.trace ++ List.replicate n post =
      postsIn before.trace ++ List.replicate (n + 1) post := by
    intro n
    rw [hposts, List.append_assoc, List.replicate_succ, List.singleton_append]
  refine ⟨fun n hn hearlier hsettled => ?_, fun hall => ?_, hrest.faults⟩
  · cases n with
    | zero => exact absurd htransient hsettled
    | succ n =>
      obtain ⟨htrace, hsettles⟩ := hrest.decided n (by omega)
        (fun j hj => hearlier (j + 1) (by omega)) hsettled
      rw [hcount] at htrace
      rw [Nat.add_right_comm] at hsettles
      exact ⟨htrace, hsettles⟩
  · obtain ⟨htrace, fault, last, houtcome, hattempts, hcode, hcause⟩ :=
      hrest.exhausted fun j hj => hall (j + 1) (by omega)
    rw [hcount] at htrace
    rw [Nat.add_right_comm] at hattempts
    exact ⟨htrace, fault, last, houtcome, hattempts, hcode, hcause⟩

end RetryContract

namespace Client

variable (net : Surroundings Rat ω) (c : Client Rat) (path : String) (post : Post)

/-- An attempt posts once. -/
theorem postsIn_attemptOnce (s : Session Rat ω) :
    postsIn (attemptOnce net post s).2.2.trace = postsIn s.trace ++ [post] :=
  postsIn_append s.trace _

/-- A pause posts nothing. -/
theorem postsIn_pause (attempt : Nat) (s : Session Rat ω) :
    postsIn (pause net attempt s).2.trace = postsIn s.trace :=
  (postsIn_append s.trace _).trans (List.append_nil _)

/-- **The attempts at a request, from the given one on, keep the contract.**  By induction on the
    retries that are left. -/
theorem attempts_contract (attempt left : Nat) (s : Session Rat ω) :
    RetryContract attempt left post (net.arrivals post s.world) s
      (attempts net c path post attempt left s) := by
  induction left generalizing attempt s with
  | zero =>
    rcases attempts_cases net c path post attempt 0 s with ⟨hsettled, hsettles, hsession⟩ |
      ⟨htransient, -, hsession, last, houtcome, hcode⟩ | ⟨-, rest, hrest, -⟩
    · refine .of_settled hsettled hsettles ?_
      rw [hsession, postsIn_attemptOnce]
    · refine .of_exhausted htransient houtcome hcode ?_
      rw [hsession, postsIn_attemptOnce]
    · cases hrest
  | succ left ih =>
    rcases attempts_cases net c path post attempt (left + 1) s with
      ⟨hsettled, hsettles, hsession⟩ | ⟨-, hleft, -⟩ | ⟨htransient, rest, hrest, houtcome, hsession⟩
    · refine .of_settled hsettled hsettles ?_
      rw [hsession, postsIn_attemptOnce]
    · cases hleft
    · cases hrest
      have hagain := ih (attempt + 1) (pause net attempt (attemptOnce net post s).2.2).2
      have hposts : postsIn (pause net attempt (attemptOnce net post s).2.2).2.trace =
          postsIn s.trace ++ [post] := by
        rw [postsIn_pause, postsIn_attemptOnce]
      refine .of_again htransient hposts ?_
      constructor
      · rw [houtcome, hsession]; exact hagain.decided
      · rw [houtcome, hsession]; exact hagain.exhausted
      · rw [houtcome]; exact hagain.faults

end Client

/-- **A request keeps the contract**, with any number of retries, any payload, any surroundings and
    so any outcomes in store.  All of its posts go to the same address with the same body: the
    payload, and the key when there is one. -/
theorem Client.request_contract {apiKey : Data} {host : String} {minDelay : Rat} {retries : Nat}
    {timeout : Data} {verbose : Bool} {c : Client Rat}
    (hc : make apiKey host minDelay retries timeout verbose = .ok c) (net : Surroundings Rat ω)
    (path : String) (payload : Record) (s : Session Rat ω) :
    let post : Post := ⟨withoutSlashes host ++ path,
      if apiKey.truthy then payload.set "apiKey" apiKey else payload, timeout⟩
    RetryContract 1 retries post (net.arrivals post s.world) s (c.request net path payload s) := by
  obtain ⟨-, rfl⟩ := make_eq_ok_iff.mp hc
  exact attempts_contract net _ path _ 1 retries s

/-- An overloaded service, an answer that is cut off, and an answer with an error in it. -/
def overloadedThenError : Nat → Arrival
  | 0 => .answered 503 "busy"
  | 1 => .answered 200 "\x7b\"articles\": "
  | _ => .answered 200 "\x7b\"error\": null\x7d"

/-- A client with a key, which retries twice. -/
def retryingClient : Client Rat :=
  ⟨.text "k", "http://h", 1, .times 2, .int 60, false, .session⟩

/-- With two retries the error is seen by the last attempt, and it decides although it is empty. -/
theorem Client.request_contract_last_attempt :
    make (.text "k") "http://h/" 1 (2 : Nat) (.int 60) false = .ok retryingClient ∧
      let post : Post := ⟨"http://h/p", [(.text "apiKey", .text "k")], .int 60⟩
      let sent := retryingClient.request (.scripted overloadedThenError 1) "/p" []
        (retryingClient.openSession 100 0)
      postsIn sent.session.trace = [post, post, post] ∧
        ∃ fault, sent.outcome = .error (.dispatch fault) ∧ fault.attempts = 3 ∧
          fault.code? = some 200 := by
  have hhost : withoutSlashes "http://h/" = "http://h" := by decide +kernel
  have hc : make (.text "k") "http://h/" 1 (2 : Nat) (.int 60) false = .ok retryingClient :=
    make_eq_ok_iff.mpr ⟨by decide, by rw [hhost]; rfl⟩
  refine ⟨hc, ?_⟩
  intro post sent
  have hcontract : RetryContract 1 2 post overloadedThenError (retryingClient.openSession 100 0)
      sent := by
    have hstored : (Surroundings.scripted overloadedThenError 1).arrivals post 0 =
        overloadedThenError := by
      funext n
      rw [Surroundings.arrivals_scripted, Nat.zero_add]
    have hkept := request_contract hc (.scripted overloadedThenError 1) "/p" []
      (retryingClient.openSession 100 0)
    rw [hhost] at hkept
    rwa [← hstored]
  have herror : ((overloadedThenError 2).object?.bind (Record.get? "error")).isSome := by
    decide +kernel
  have hearlier : ∀ j < 2, (overloadedThenError j).IsTransient := by decide +kernel
  obtain ⟨hposts, hsettles⟩ := hcontract.decided 2 (Nat.le_refl 2) hearlier (by decide +kernel)
  refine ⟨hposts, hsettles.failure fun body hbody => ?_⟩
  rw [hbody] at herror
  exact herror

end NewsSearch
