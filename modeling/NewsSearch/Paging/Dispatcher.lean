import NewsSearch.Journal
import NewsSearch.Query.Search
import NewsSearch.Section.Response

/-!
Dispatchers: whatever sends a query and answers it.

A dispatcher is a step on a state of its own.  It may answer with a decoded response, refuse the
request, or break on an answer that cannot be decoded at all.
-/

namespace NewsSearch

/-- What comes back for a request. -/
inductive Reply where
  | response (r : Response)
  | refused (fault : DispatchFault)
  /-- The dispatcher broke on the answer. -/
  | broken (fault : Fault)

/-- A reply with the notes that were made on the way and the state afterwards. -/
structure Answered (σ : Type) where
  reply : Reply
  notes : List Note
  state : σ

/-- Something that answers requests for one section of a query, with a state `σ` of its own. -/
structure Dispatcher (σ : Type) where
  ask : Query → Section → σ → Answered σ

/-- Decodes the sections of a body that answers the query. -/
def Query.decode (q : Query) (body : Record) : Except Fault Response :=
  Response.ofRecord (q.sectionsOf body)

/-- Decodes the sections of a value that should be such a body. -/
def Query.decodeValue (q : Query) (body : Data) : Except Fault Response := do
  Response.ofData (← q.sectionsIn body)

/-- A mapping is decoded as a body. -/
@[simp] theorem Query.decodeValue_map (q : Query) (r : Record) :
    q.decodeValue (.map r) = q.decode r := by
  cases q <;> rfl

/-- The reply that a body, or a value in its place, gives to the query. -/
def Reply.ofBody (q : Query) (body : Data) : Reply :=
  match q.decodeValue body with
  | .ok r => .response r
  | .error fault => .broken fault

end NewsSearch
