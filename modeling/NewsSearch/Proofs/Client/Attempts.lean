import NewsSearch.Client.Options

/-!
One attempt at a request.

An attempt either settles its request or may be mended by another one.  `Arrival.IsTransient` says
which, in terms of what came back alone: the transport failed, the status asks to try again, or an
answer below status 400 is no JSON object.

1. The client judges in another order and over two functions: first the transport, then the status,
   then the body, which is JSON or not, an object or not, and has an error in it or not
   (`Arrival.judgeBody_cases`).  It judges the same, and what it makes of an outcome that is not
   transient is what `Arrival.Settles` says (`Arrival.judge_cases`).
2. `Client.attempts_cases` is the step of everything that is proved about requests: an attempt
   settles the request, or it was the last one, or a pause and the next attempt follow.  It says
   nothing about times; what an attempt and a pause do to the session is kept as it is.

Times are exact fractions, so that a pause is never out of their range.

Main statements: `Arrival.judge_cases`, `Client.attempts_cases`.
-/

namespace NewsSearch

variable {ω : Type}

/-! ## What came back

The outcome of an attempt is a failure of the transport, or an answer with a status and a text. -/

namespace Arrival

/-- The status of an answer. -/
def status? : Arrival → Option Int
  | failed .. => none
  | answered status _ => some status

/-- The JSON object in an answer whose status is below 400. -/
def object? : Arrival → Option Record
  | failed .. => none
  | answered status text =>
    if status < 400 then
      match Json.read text with
      | .ok (.map body) => some body
      | _ => none
    else none

/-- Whether another attempt may mend it: a failure of the transport that does not lie in the
    address, a status that asks to try again, or an answer below status 400 that is no JSON
    object. -/
def IsTransient : Arrival → Prop
  | failed name _ => name ∉ ["InvalidURL", "InvalidProxyURL", "MissingSchema", "InvalidSchema"]
  | answered status text =>
    status ∈ ([429, 500, 502, 503, 504] : List Int) ∨
      status < 400 ∧ (answered status text).object?.isNone

instance : DecidablePred IsTransient
  | failed .. => inferInstanceAs (Decidable (_ ∉ _))
  | answered .. => inferInstanceAs (Decidable (_ ∨ _))

/-- What an outcome that is not transient makes of its request, as that of the given attempt.  There
    are two ways to settle a request, and one object decides between them. -/
structure Settles (a : Arrival) (attempt : Nat) (outcome : Except Fault Record) : Prop where
  /-- The JSON object is given when there is no error in it. -/
  success : ∀ body, a.object? = some body → body.get? "error" = none → outcome = .ok body
  /-- Otherwise the request has failed for good; the fault knows the attempt and the status. -/
  failure : (∀ body, a.object? = some body → (body.get? "error").isSome) →
    ∃ fault, outcome = .error (.dispatch fault) ∧ fault.attempts = attempt ∧ fault.code? = a.status?

/-- An answer below status 400 is transient when it is no JSON object; otherwise an error in the
    object decides. -/
theorem judgeBody_cases {status : Int} (text : String) (attempt : Nat) (hlow : status < 400) :
    ((answered status text).object? = none ∧
      ∃ fault, judgeBody attempt status text = .transient fault ∧ fault.code? = some status) ∨
    ∃ body, (answered status text).object? = some body ∧
      ((body.get? "error" = none ∧ judgeBody attempt status text = .success body) ∨
        ∃ error, body.get? "error" = some error ∧
          judgeBody attempt status text = .final (.service error.plain attempt status)) := by
  simp only [object?, if_pos hlow, judgeBody]
  cases Json.read text with
  | error fault => exact Or.inl ⟨rfl, .notJson status, rfl, rfl⟩
  | ok d =>
    cases d with
    | map body =>
      refine Or.inr ⟨body, rfl, ?_⟩
      dsimp only
      cases Record.get? "error" body with
      | none => exact Or.inl ⟨rfl, rfl⟩
      | some error => exact Or.inr ⟨error, rfl, rfl⟩
    | scalar s => exact Or.inl ⟨rfl, .notAnObject status, rfl, rfl⟩
    | list items => exact Or.inl ⟨rfl, .notAnObject status, rfl, rfl⟩
    | tuple items => exact Or.inl ⟨rfl, .notAnObject status, rfl, rfl⟩

/-- A request is settled by the object of an answer. -/
theorem settles_ok {a : Arrival} {attempt : Nat} {body : Record} (hbody : a.object? = some body)
    (herror : body.get? "error" = none) : a.Settles attempt (.ok body) := by
  refine ⟨fun other hother _ => ?_, fun hfailed => ?_⟩
  · rw [hbody] at hother
    rw [Option.some.inj hother]
  · have hsome := hfailed body hbody
    rw [herror] at hsome
    cases hsome

/-- A request is settled by a fault when there is no object without an error. -/
theorem settles_error {a : Arrival} {attempt : Nat} {fault : DispatchFault}
    (hnone : ∀ body, a.object? = some body → body.get? "error" ≠ none)
    (hattempts : fault.attempts = attempt) (hcode : fault.code? = a.status?) :
    a.Settles attempt (.error (.dispatch fault)) :=
  ⟨fun body hbody herror => absurd herror (hnone body hbody),
    fun _ => ⟨fault, rfl, hattempts, hcode⟩⟩

/-- **The client takes an outcome for transient exactly when it is**, and otherwise settles the
    request by it.  The cases are those of the client: the address is at fault, the status asks to
    try again, the answer is refused, or its body is looked at. -/
theorem judge_cases (a : Arrival) (url : String) (attempt : Nat) :
    (a.IsTransient ∧ ∃ fault, a.judge url attempt = .transient fault ∧ fault.code? = a.status?) ∨
    (¬ a.IsTransient ∧
      ((∃ body, a.judge url attempt = .success body ∧ a.Settles attempt (.ok body)) ∨
        ∃ fault, a.judge url attempt = .final fault ∧
          a.Settles attempt (.error (.dispatch fault)))) := by
  cases a with
  | failed name text =>
    simp only [judge, List.contains_iff_mem]
    by_cases haddress : name ∈ addressFailures
    · rw [if_pos haddress]
      refine Or.inr ⟨Decidable.not_not.mpr haddress, Or.inr ⟨_, rfl, settles_error ?_ rfl rfl⟩⟩
      intro body hbody
      cases hbody
    · rw [if_neg haddress]
      exact Or.inl ⟨haddress, _, rfl, rfl⟩
  | answered status text =>
    simp only [judge, List.contains_iff_mem]
    by_cases hagain : status ∈ retryable
    · rw [if_pos hagain]
      exact Or.inl ⟨Or.inl hagain, _, rfl, rfl⟩
    · rw [if_neg hagain]
      by_cases hlow : status < 400
      · rw [if_neg (by omega)]
        rcases judgeBody_cases text attempt hlow with ⟨hnone, fault, hfault, hcode⟩ |
          ⟨body, hbody, ⟨herror, hsuccess⟩ | ⟨error, herror, hfinal⟩⟩
        · exact Or.inl ⟨Or.inr ⟨hlow, by rw [hnone]; rfl⟩, fault, hfault, hcode⟩
        all_goals
          have hsettled : ¬ (answered status text).IsTransient := by
            rintro (hstatus | ⟨-, hnone⟩)
            · exact hagain hstatus
            · rw [hbody] at hnone
              cases hnone
        · exact Or.inr ⟨hsettled, Or.inl ⟨body, hsuccess, settles_ok hbody herror⟩⟩
        · refine Or.inr ⟨hsettled, Or.inr ⟨_, hfinal, settles_error ?_ rfl rfl⟩⟩
          intro other hother hmissing
          rw [hbody] at hother
          rw [← Option.some.inj hother, herror] at hmissing
          cases hmissing
      · -- refused, whatever the answer holds
        rw [if_pos (by omega)]
        have hsettled : ¬ (answered status text).IsTransient := by
          rintro (hstatus | ⟨hlow', -⟩)
          · exact hagain hstatus
          · exact hlow hlow'
        refine Or.inr ⟨hsettled, Or.inr ⟨_, rfl, settles_error ?_ rfl rfl⟩⟩
        intro body hbody
        rw [object?, if_neg hlow] at hbody
        cases hbody

end Arrival

/-! ## What the surroundings have in store -/

/-- What comes of the first, the second and every further attempt at a post, a pause lying between
    any two of them.  It is numbered from zero. -/
def Surroundings.arrivals (net : Surroundings Rat ω) (post : Post) : ω → Nat → Arrival
  | w, 0 => (net.post post w).1
  | w, n + 1 => net.arrivals post (net.jitter (net.post post w).2.2).2 n

/-- Surroundings in which the attempts come out as the given sequence says, each after the given
    time. -/
def Surroundings.scripted (script : Nat → Arrival) (duration : Rat) : Surroundings Rat Nat where
  post _ n := (script n, duration, n + 1)
  jitter n := (0, n)

/-- Every sequence of outcomes is in store somewhere, so that nothing is lost by speaking of
    surroundings instead of sequences. -/
theorem Surroundings.arrivals_scripted (script : Nat → Arrival) (duration : Rat) (post : Post)
    (first n : Nat) : (scripted script duration).arrivals post first n = script (first + n) := by
  induction n generalizing first with
  | zero => rfl
  | succ n ih =>
    show (scripted script duration).arrivals post (first + 1) n = script (first + (n + 1))
    rw [ih, Nat.add_right_comm, Nat.add_assoc]

namespace Client

/-! ## Clients -/

/-- A client with a number of retries can be made when its least delay is not negative, and posts
    through a session of its own. -/
theorem make_eq_ok_iff {apiKey : Data} {host : String} {minDelay : Rat} {retries : Nat}
    {timeout : Data} {verbose : Bool} {c : Client Rat} :
    make apiKey host minDelay retries timeout verbose = .ok c ↔
      0 ≤ minDelay ∧ c = ⟨apiKey, withoutSlashes host, minDelay, .times retries, timeout, verbose,
        .session⟩ := by
  have hcount : ¬ (retries : Int) < 0 := by omega
  have hpacer : Pacer.make minDelay = if minDelay < 0 then .error (.value .minDelay)
      else .ok ⟨minDelay, none⟩ := rfl
  rw [make, if_neg hcount, hpacer]
  by_cases hlow : minDelay < 0
  · rw [if_pos hlow]
    refine ⟨fun hc => ?_, fun hc => absurd hlow (Rat.not_lt.mpr hc.1)⟩
    cases hc
  · rw [if_neg hlow]
    constructor
    · intro hc
      cases hc
      exact ⟨Rat.not_lt.mp hlow, rfl⟩
    · rintro ⟨-, rfl⟩
      rfl

/-! ## One attempt

The recursion of the client is on the retries that are left, and has this one step. -/

variable (net : Surroundings Rat ω) (c : Client Rat) (path : String) (post : Post)

/-- **The step.**  An attempt settles its request, or fails and was the last one, or fails and a
    pause and the next attempt follow.  In the last case the request ends as the attempts from the
    next one on do. -/
theorem attempts_cases (attempt left : Nat) (s : Session Rat ω) :
    let tried := attemptOnce net post s
    let sent := attempts net c path post attempt left s
    (¬ tried.1.IsTransient ∧ tried.1.Settles attempt sent.outcome ∧ sent.session = tried.2.2) ∨
    (tried.1.IsTransient ∧ left = 0 ∧ sent.session = tried.2.2 ∧
      ∃ last, sent.outcome = .error (.dispatch (.exhausted path attempt last)) ∧
        last.code? = tried.1.status?) ∨
    (tried.1.IsTransient ∧ ∃ rest, left = rest + 1 ∧
      let again := attempts net c path post (attempt + 1) rest (pause net attempt tried.2.2).2
      sent.outcome = again.outcome ∧ sent.session = again.session) := by
  intro tried sent
  rcases tried.1.judge_cases post.url attempt with ⟨htransient, fault, hjudge, hcode⟩ |
    ⟨hsettled, ⟨body, hjudge, hsettles⟩ | ⟨fault, hjudge, hsettles⟩⟩
  · refine Or.inr ?_
    cases left with
    | zero =>
      refine Or.inl ⟨htransient, rfl, ?_⟩
      unfold sent
      rw [attempts]
      dsimp only
      rw [hjudge]
      exact ⟨rfl, fault, rfl, hcode⟩
    | succ rest =>
      refine Or.inr ⟨htransient, rest, rfl, ?_⟩
      unfold sent
      rw [attempts.eq_def net c path post attempt (rest + 1) s]
      dsimp only
      rw [hjudge]
      exact ⟨rfl, rfl⟩
  · refine Or.inl ⟨hsettled, ?_⟩
    unfold sent
    rw [attempts]
    dsimp only
    rw [hjudge]
    exact ⟨hsettles, rfl⟩
  · refine Or.inl ⟨hsettled, ?_⟩
    unfold sent
    rw [attempts]
    dsimp only
    rw [hjudge]
    exact ⟨hsettles, rfl⟩

end Client

end NewsSearch
