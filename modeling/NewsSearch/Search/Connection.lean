import NewsSearch.Client.Session
import NewsSearch.Search.Outcome

/-!
Connections: dispatchers that are closed when the work is done.

Closing may fail.  That must not spoil what has been collected, so the failure is noted and nothing
more.
-/

namespace NewsSearch

/-- A dispatcher that can be closed; closing gives the text of a failure, if there is one. -/
structure Connection (σ : Type) where
  dispatcher : Dispatcher σ
  close : σ → Option String × σ

namespace Connection

/-- Closes a connection. -/
def shut {σ : Type} (c : Connection σ) (s : σ) : List Note × σ :=
  let (failure, s) := c.close s
  match failure with
  | some text => ([.main .warning ("Search client close failed: " ++ text)], s)
  | none => ([], s)

end Connection

/-- The connection that a client has through its surroundings. -/
def Client.connection {τ ω : Type} [Seconds τ] (net : Surroundings τ ω) (c : Client τ) :
    Connection (Session τ ω) where
  dispatcher := c.dispatcher net
  close s :=
    let closed := c.close s
    match closed.outcome with
    | .ok () => (none, closed.session)
    | .error fault => (some fault.message, closed.session)

end NewsSearch
