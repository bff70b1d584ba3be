import NewsSearch.Client.Options
import NewsSearch.Proofs.Search.Agreement

/-!
What is posted first.

Whatever a session does is added to its trace behind what it has done before, and nothing is ever
taken away (`Session.Extends`).

1. The first attempt at a request posts (`attemptOnce_posts`), and the pauses and further attempts
   come behind it (`attempts_extends`, by induction on the retries left).  So a request posts first
   (`request_posts`).
2. A request that can be built is posted, and one that cannot leaves the session as it is
   (`ask_posts`, `ask_extends`).
3. A pass extends the session from pull to pull (`runFrom_extends`, by induction on the pulls), and
   its first pull asks for page 1 (`run_posts`).

So what the trace shows right behind a session is the post for page 1, however the pass goes on.

Main statement: `NamedSearch.collect_posts`.
-/

namespace NewsSearch

variable {τ ω : Type}

/-- What the first session has done, the second one has done as well, before anything else. -/
def Session.Extends (s t : Session τ ω) : Prop := s.trace <+: t.trace

/-- The first thing that the second session has done beyond the first one is to pace and to make
    this post. -/
def Session.PostsFirst (post : Post) (s t : Session τ ω) : Prop :=
  ∃ slept time, s.trace ++ [.paced s.clock slept, .posted time post] <+: t.trace

/-- What is done first stays first when more is done. -/
theorem Session.PostsFirst.extends {post : Post} {s t u : Session τ ω} (h : s.PostsFirst post t)
    (hmore : t.Extends u) : s.PostsFirst post u := by
  obtain ⟨slept, time, hpost⟩ := h
  exact ⟨slept, time, hpost.trans hmore⟩

variable [Seconds τ]

namespace Client

variable (net : Surroundings τ ω) (c : Client τ)

/-! ## Requests

One request is made of attempts, all with the same post. -/

/-- An attempt paces and posts, and does nothing else to the session. -/
theorem attemptOnce_posts (post : Post) (s : Session τ ω) :
    s.PostsFirst post (attemptOnce net post s).2.2 :=
  ⟨_, _, List.prefix_refl _⟩

/-- The pauses and the other attempts come behind the first one. -/
theorem attempts_extends (path : String) (post : Post) (attempt left : Nat) (s : Session τ ω) :
    (attemptOnce net post s).2.2.Extends (attempts net c path post attempt left s).session := by
  induction left generalizing attempt s with
  | zero =>
    rw [attempts]
    dsimp only
    split <;> exact List.prefix_refl _
  | succ left ih =>
    rw [attempts.eq_def]
    dsimp only
    split
    · exact List.prefix_refl _
    · exact List.prefix_refl _
    · split
      · -- a pause, and then the first of the attempts that are left
        obtain ⟨slept, time, hagain⟩ := (attemptOnce_posts net post
          (pause net attempt (attemptOnce net post s).2.2).2).extends
            (ih (attempt + 1) (pause net attempt (attemptOnce net post s).2.2).2)
        exact (((attemptOnce net post s).2.2.trace.prefix_append _).trans
          (List.prefix_append _ _)).trans hagain
      · exact List.prefix_refl _

/-- A client that posts through a session, and tries a whole number of times. -/
structure Posts (c : Client τ) : Prop where
  session : c.carrier = .session
  retries : ∃ n, c.retries = .times n

/-- A client that is made from settings is one. -/
theorem posts_of_make {apiKey : Data} {host : String} {minDelay : τ} {retries : Int}
    {timeout : Data} {verbose : Bool} {c : Client τ}
    (h : make apiKey host minDelay retries timeout verbose = .ok c) : c.Posts := by
  simp only [make, throw, throwThe, MonadExceptOf.throw, check_eq_ok_iff, bind_eq_ok_iff] at h
  obtain ⟨-, pacer, -, hc⟩ := h
  cases hc
  exact ⟨rfl, _, rfl⟩

variable {c}

/-- A request posts first. -/
theorem request_posts (hc : c.Posts) (path : String) (payload : Record) (s : Session τ ω) :
    s.PostsFirst (c.postTo path payload) (c.request net path payload s).session := by
  obtain ⟨hsession, n, hretries⟩ := hc
  rw [request, hretries, hsession]
  exact (attemptOnce_posts net _ s).extends (attempts_extends net c path _ 1 n s)

/-- A request that can be built is posted. -/
theorem ask_posts (hc : c.Posts) {q : Query} {wanted : Section} {body : Record}
    (hbody : q.body [wanted] = .ok body) (s : Session τ ω) :
    s.PostsFirst (c.postTo q.path body) ((c.dispatcher net).ask q wanted s).state := by
  have hstate : ((c.dispatcher net).ask q wanted s).state =
      (c.request net q.path body s).session := by
    simp only [dispatcher, send, hbody]
  rw [hstate]
  exact request_posts net hc q.path body s

/-- Whatever is asked, the session is extended; it stays as it is when the request cannot be
    built. -/
theorem ask_extends (hc : c.Posts) (q : Query) (wanted : Section) (s : Session τ ω) :
    s.Extends ((c.dispatcher net).ask q wanted s).state := by
  cases hbody : q.body [wanted] with
  | ok body =>
    obtain ⟨slept, time, hpost⟩ := ask_posts net hc hbody s
    exact (s.trace.prefix_append _).trans hpost
  | error fault =>
    simp only [dispatcher, send, hbody]
    exact List.prefix_refl _

/-! ## Passes

A pass is made of requests, one after the other. -/

/-- A pass extends the session in which it goes on. -/
theorem runFrom_extends (hc : c.Posts) (p : Pager) (fuel : Nat) (pass : Option Cursor)
    (s : Session τ ω) : s.Extends (p.runFrom (c.dispatcher net) fuel pass s).state := by
  induction fuel generalizing pass s with
  | zero => exact List.prefix_refl _
  | succ fuel ih =>
    have hpull : s.Extends (p.pull (c.dispatcher net) pass s).state := by
      cases pass with
      | none => exact List.prefix_refl _
      | some cursor =>
        cases hmore : cursor.wantsMore p.limit with
        | false =>
          rw [Pager.pull, p.pullAt_sated _ hmore]
          exact List.prefix_refl _
        | true =>
          rw [Pager.pull, p.pullAt_state _ hmore]
          exact ask_extends net hc _ _ s
    simp only [Pager.runFrom]
    split
    · exact hpull
    · exact hpull
    · exact hpull.trans (ih _ _)

/-- A new pass that wants anything posts the request for page 1 first. -/
theorem run_posts (hc : c.Posts) {p : Pager} (hlimit : p.limit ≠ some 0) {body : Record}
    (hbody : (p.request 0).1.body [(p.request 0).2] = .ok body) (fuel : Nat) (s : Session τ ω) :
    s.PostsFirst (c.postTo p.query.path body) (p.run (c.dispatcher net) (fuel + 1) s).state := by
  have hpull : s.PostsFirst (c.postTo p.query.path body)
      (p.pull (c.dispatcher net) (some .start) s).state := by
    rw [Pager.pull, p.pullAt_state _ (Cursor.wantsMore_start.mpr hlimit)]
    exact ask_posts net hc hbody s
  simp only [Pager.run, Pager.runFrom]
  split
  · exact hpull
  · exact hpull
  · exact hpull.extends (runFrom_extends net hc p fuel _ _)

/-- A pass ends at a request for page 1 that cannot be built because of a type fault, and leaves the
    session as it is. -/
theorem run_unposted {p : Pager} {fault : TypeFault}
    (hbody : (p.request 0).1.body [(p.request 0).2] = .error (.type fault)) (fuel : Nat)
    (s : Session τ ω) : (p.run (c.dispatcher net) fuel s).state = s := by
  have hask : (c.dispatcher net).ask p.query (p.pageSection .start) s =
      ⟨.broken (.type fault), [], s⟩ := by
    have hsame : p.query.body [p.pageSection .start] = .error (.type fault) := hbody
    simp only [dispatcher, send, hsame, replyOf, Except.bind]
  cases fuel with
  | zero => rfl
  | succ fuel =>
    simp only [Pager.run, Pager.runFrom, Pager.pull]
    cases hmore : Cursor.start.wantsMore p.limit with
    | false => rw [p.pullAt_sated _ hmore]
    | true => simp only [Pager.pullAt, hmore, if_true, hask, Pager.answerOf]

end Client

/-- When a search is collected, the request for page 1 is posted first. -/
theorem NamedSearch.collect_posts {c : Client τ} (hc : c.Posts) (net : Surroundings τ ω)
    {options : CollectOptions} {n : NamedSearch} {p : Pager} (hp : (n.pager options).2 = .ok p)
    (hlimit : p.limit ≠ some 0) {body : Record}
    (hbody : (p.request 0).1.body [(p.request 0).2] = .ok body) (fuel : Nat) (s : Session τ ω) :
    s.PostsFirst (c.postTo p.query.path body)
      (n.collect (c.dispatcher net) options (fuel + 1) s).state := by
  rw [(collect_eq (c.dispatcher net) hp (fuel + 1) s).2.2]
  exact Client.run_posts net hc hlimit hbody fuel s

/-- When that request cannot be built, nothing is posted. -/
theorem NamedSearch.collect_unposted {c : Client τ} (net : Surroundings τ ω)
    {options : CollectOptions} {n : NamedSearch} {p : Pager} (hp : (n.pager options).2 = .ok p)
    {fault : TypeFault} (hbody : (p.request 0).1.body [(p.request 0).2] = .error (.type fault))
    (fuel : Nat) (s : Session τ ω) : (n.collect (c.dispatcher net) options fuel s).state = s := by
  rw [(collect_eq (c.dispatcher net) hp fuel s).2.2]
  exact Client.run_unposted net hbody fuel s

end NewsSearch
