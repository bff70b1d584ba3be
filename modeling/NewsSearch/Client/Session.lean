import NewsSearch.Client.Exchange
import NewsSearch.Client.Pacer
import NewsSearch.Paging.Dispatcher

/-!
The client of the service, and its sessions.

A `Client` has the settings; a `Session` is what changes while it works: the clock, the pacer, the
surroundings that answer its requests, and the trace of what it has done.  Every request is paced,
and a request that fails in a way that may pass is made again, after a pause that doubles from one
attempt to the next up to a limit.  A pause whose doubled part is out of the range of times ends the
request with a fault.
-/

namespace NewsSearch

open Number

variable {τ ω : Type} [Seconds τ]

/-- How often a failed request is made again. -/
inductive Retries where
  | times (n : Nat)
  /-- No whole number of times.  It is accepted as a setting, but no request can be made with it. -/
  | fraction (x : Float)

/-- What a client posts through. -/
inductive Carrier where
  /-- A session with its surroundings. -/
  | session
  /-- A value of this type in the place of a session; it can neither post nor be closed. -/
  | other (typeName : String)
  deriving DecidableEq, Repr

/-- The settings of a client. -/
structure Client (τ : Type) where
  /-- The key sent with every request; none is sent when it counts as false. -/
  apiKey : Data
  /-- The address of the service, without slashes at its end. -/
  host : String
  minDelay : τ
  retries : Retries
  timeout : Data
  /-- Whether every request is noted as information. -/
  verbose : Bool
  carrier : Carrier

/-- What surrounds a client: the service and chance. -/
structure Surroundings (τ ω : Type) where
  /-- What comes of a post, how long that takes, and the surroundings afterwards. -/
  post : Post → ω → Arrival × τ × ω
  /-- The chance part of the next pause. -/
  jitter : ω → τ × ω

/-- Something that a client has done. -/
inductive Event (τ : Type) where
  /-- It asked its pacer at a time, and slept when it had to. -/
  | paced (asked : τ) (slept : Option τ)
  | posted (time : τ) (post : Post)
  /-- It paused before another attempt. -/
  | paused (pause : τ)
  | closed

/-- The changing part of a client. -/
structure Session (τ ω : Type) where
  clock : τ
  pacer : Pacer τ
  world : ω
  /-- What the client has done, in order. -/
  trace : List (Event τ)

/-- What a request gives, with the notes about it and the session afterwards. -/
structure Exchanged (τ ω α : Type) where
  outcome : Except Fault α
  notes : List Note
  session : Session τ ω

namespace Client

/-- The longest pause between two attempts, in seconds. -/
def longestPause : Nat := 20

/-- The part of the pause after the given attempt that is not left to chance, in seconds: one,
    doubled with every attempt. -/
def doubled (attempt : Nat) : Nat := pow2 (attempt - 1)

/-- The pause after the given attempt: the doubled part with a chance part, and no longer than the
    limit. -/
def pauseAfter (attempt : Nat) (jitter : τ) : τ :=
  let pause := Seconds.ofNat (doubled attempt) + jitter
  if Seconds.ofNat longestPause < pause then Seconds.ofNat longestPause else pause

/-- A session that begins at a time. -/
def openSession (c : Client τ) (clock : τ) (world : ω) : Session τ ω :=
  ⟨clock, ⟨c.minDelay, none⟩, world, []⟩

/-- The request to a path with a payload: the key is added when there is one. -/
def postTo (c : Client τ) (path : String) (payload : Record) : Post where
  url := c.host ++ path
  body := if c.apiKey.truthy then payload.set "apiKey" c.apiKey else payload
  timeout := c.timeout

/-- Paces and makes one attempt.  Gives what came of it, how long it took, and the session
    afterwards. -/
def attemptOnce (net : Surroundings τ ω) (post : Post) (s : Session τ ω) :
    Arrival × τ × Session τ ω :=
  let waited := s.pacer.wait s.clock
  let (arrival, duration, world) := net.post post s.world
  let later := waited.now + duration
  (arrival, later - waited.now,
    ⟨later, waited.pacer, world,
      s.trace ++ [.paced s.clock waited.slept, .posted waited.now post]⟩)

/-- Pauses after an attempt.  Gives the pause and the session afterwards. -/
def pause (net : Surroundings τ ω) (attempt : Nat) (s : Session τ ω) : τ × Session τ ω :=
  let (jitter, world) := net.jitter s.world
  let pause := pauseAfter attempt jitter
  (pause, { s with clock := s.clock + pause, world := world, trace := s.trace ++ [.paused pause] })

/-- Makes the given attempt at a request and, while it fails in a way that may pass, as many further
    ones as are left.  The number of attempts in all is that of this one and those left. -/
def attempts (net : Surroundings τ ω) (c : Client τ) (path : String) (post : Post) :
    Nat → Nat → Session τ ω → Exchanged τ ω Record
  | attempt, left, s =>
    let (arrival, took, s) := attemptOnce net post s
    let total := natText (attempt + left)
    match arrival.judge post.url attempt with
    | .success body =>
      let level : Level := if c.verbose then .info else .debug
      let resultType := post.body.getD "resultType"
      ⟨.ok body, Note.quoting resultType (.main level
        (s!"Request path={path} resultType={resultType.plain} " ++
          s!"attempt={natText attempt} took {Seconds.twoPlaces took}s")), s⟩
    | .final fault => ⟨.error (.dispatch fault), [], s⟩
    | .transient fault =>
      match left with
      | 0 =>
        ⟨.error (.dispatch (.exhausted path attempt fault)),
          [.main .warning
            s!"Request failed after {total} attempts: path={path} error={fault.message}"], s⟩
      | left + 1 =>
        if Seconds.holds τ (doubled attempt) then
          let (pause, s) := pause net attempt s
          let note := Note.main .debug (s!"Request retry path={path} attempt={natText attempt}/" ++
            s!"{total} delay={Seconds.twoPlaces pause}s error={fault.message}")
          let rest := attempts net c path post (attempt + 1) left s
          { rest with notes := note :: rest.notes }
        else ⟨.error .overflow, [], s⟩

/-- Paces a post that cannot be made, because a value of the given type stands in the place of a
    session. -/
def misplacedPost (typeName : String) (s : Session τ ω) : Exchanged τ ω Record :=
  let waited := s.pacer.wait s.clock
  ⟨.error (.noAttribute typeName "post"), [],
    { s with
      clock := waited.now
      pacer := waited.pacer
      trace := s.trace ++ [.paced s.clock waited.slept] }⟩

/-- Sends a payload to a path and gives the body that answers it.  Without a whole number of retries
    there is no first attempt, and without a session the first attempt ends before its post. -/
def request (net : Surroundings τ ω) (c : Client τ) (path : String) (payload : Record)
    (s : Session τ ω) : Exchanged τ ω Record :=
  match c.retries with
  | .times retries =>
    match c.carrier with
    | .session => attempts net c path (c.postTo path payload) 1 retries s
    | .other typeName => misplacedPost typeName s
  | .fraction x => ⟨.error (.type (.notInteger (Data.float x).fullTypeName)), [], s⟩

/-- Sends a value that should be a payload.  A sequence of pairs is sent as the payload gathered
    from it, but when the answer is noted it lacks the operation by which its entries are asked
    for. -/
def requestValue (net : Surroundings τ ω) (c : Client τ) (path : String) (payload : Data)
    (s : Session τ ω) : Exchanged τ ω Record :=
  match payload, payload.gathered with
  | .map entries, _ => c.request net path entries s
  | _, .error fault => ⟨.error fault, [], s⟩
  | d, .ok entries =>
    let sent := c.request net path entries s
    match sent.outcome with
    | .error _ => sent
    | .ok _ =>
      -- the note about the answer is the last one, if it is not lost anyway
      let notes := if (entries.getD "resultType").isTooLong then sent.notes else sent.notes.dropLast
      ⟨.error (.noAttribute d.fullTypeName "get"), notes, sent.session⟩

/-- Sends a query for the given sections, or for its own when none are given, and decodes the
    response. -/
def send (net : Surroundings τ ω) (c : Client τ) (q : Query) (sections : List Section)
    (s : Session τ ω) : Exchanged τ ω Response :=
  match q.body sections with
  | .error fault => ⟨.error fault, [], s⟩
  | .ok payload =>
    let sent := c.request net q.path payload s
    ⟨sent.outcome.bind q.decode, sent.notes, sent.session⟩

/-- Closes the session; what stands in its place cannot be closed. -/
def close (c : Client τ) (s : Session τ ω) : Exchanged τ ω Unit :=
  match c.carrier with
  | .session => ⟨.ok (), [], { s with trace := s.trace ++ [.closed] }⟩
  | .other typeName => ⟨.error (.noAttribute typeName "close"), [], s⟩

/-- The reply that an outcome is to a dispatcher's caller. -/
def replyOf : Except Fault Response → Reply
  | .ok r => .response r
  | .error (.dispatch fault) => .refused fault
  | .error fault => .broken fault

/-- The client as a dispatcher. -/
def dispatcher (net : Surroundings τ ω) (c : Client τ) : Dispatcher (Session τ ω) where
  ask q wanted s :=
    let sent := c.send net q [wanted] s
    ⟨replyOf sent.outcome, sent.notes, sent.session⟩

end Client

end NewsSearch
