import NewsSearch.Query.Search

/-!
Calls on a search that has been made.

A call asks for one section alone, asks for one more section, or takes over an explicit search.  It
works on the search in steps: it reads it, checks what it is given, and writes one part after the
other.  A step may refuse; what was written before stays written.

`Search.after` is the search after several calls, whether they were refused or not.  A call that is
not refused gives the search that `setSection`, `addSection` or `withExplicit` gives, and one that
is refused changes nothing (`Call.run_eq`).
-/

namespace NewsSearch

/-- A call on a search. -/
inductive Search.Call where
  | setSection (offer : Offer)
  | addSection (offer : Offer)
  | withExplicit (source : ExplicitSource)

namespace Search.Call

/-- Work on a search that may refuse on its way. -/
abbrev Work := ExceptT Fault (StateM Search)

/-- The steps of the call. -/
def work : Call → Work Unit
  | setSection offer => do
    let s ← get
    let wanted ← liftExcept (Search.checkOffer s.subject offer)
    modify fun s => { s with sections := [wanted] }
  | addSection offer => do
    let s ← get
    let wanted ← liftExcept (Search.checkOffer s.subject offer)
    if s.sections.any fun other => other.sectionType = wanted.sectionType then
      throw (.value (.repeatedSection wanted.sectionType))
    modify fun s => { s with sections := s.sections ++ [wanted] }
  | withExplicit source => do
    let s ← get
    let e ← liftExcept (Search.explicitOf s.subject source)
    modify fun s => { s with root := some e.root }
    modify fun s => { s with filters := e.filters }

/-- What the call answers, and the search it leaves. -/
def run (c : Call) (s : Search) : Except Fault Unit × Search := c.work.run s

/-- The search that the call asks for. -/
def apply (c : Call) (s : Search) : Except Fault Search :=
  match c with
  | setSection offer => s.setSection offer
  | addSection offer => s.addSection offer
  | withExplicit source => s.withExplicit source

/-- A call leaves the search that it asks for, and a refused one the search as it was. -/
theorem run_eq (c : Call) (s : Search) :
    c.run s = match c.apply s with
      | .ok s' => (.ok (), s')
      | .error fault => (.error fault, s) := by
  cases c with
  | setSection offer =>
    show ((liftExcept (Search.checkOffer s.subject offer) >>= _ : Work Unit) s) = _
    rw [apply, Search.setSection]
    cases Search.checkOffer s.subject offer <;> rfl
  | addSection offer =>
    show ((liftExcept (Search.checkOffer s.subject offer) >>= _ : Work Unit) s) = _
    rw [apply, Search.addSection]
    cases Search.checkOffer s.subject offer with
    | error fault => rfl
    | ok asked =>
      show ((if _ then _ else _ : Work Unit) s) = _
      simp only [bind, Except.bind]
      split <;> rfl
  | withExplicit source =>
    show ((liftExcept (Search.explicitOf s.subject source) >>= _ : Work Unit) s) = _
    rw [apply, Search.withExplicit]
    cases Search.explicitOf s.subject source <;> rfl

end Search.Call

/-- The search after the calls in order. -/
def Search.after (s : Search) (calls : List Call) : Search :=
  calls.foldl (fun s c => (c.run s).2) s

end NewsSearch
