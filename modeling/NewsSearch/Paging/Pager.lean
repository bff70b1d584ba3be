import NewsSearch.Paging.Dispatcher
import NewsSearch.Paging.Pass

/-!
Pagers: a query, the listing to run over, and the most items wanted.

`Pager.pull` takes the next batch of a pass, which sends one request at most, and `Pager.run` takes
several.  The three ways to use a pager are batches (`run`), single items (`takeItems`) and a
transcript (`execute`); each of them starts a new pass from page 1 and pulls no further than its
caller asks.  Since a service may go on forever, a run says how it ended: the pass was over, the
dispatcher broke, or the caller stopped.
-/

namespace NewsSearch

/-- A query that is run page by page. -/
structure Pager where
  query : Query
  /-- The listing whose pages are requested. -/
  listing : Listing
  limit : Limit
  /-- The fault that the last pass over single items met. -/
  lastFault : Option PageFault

/-- What taking the next batch of a pass gives. -/
inductive Pulled where
  /-- A batch; the pass may go on from the cursor, or is over when there is none. -/
  | batch (b : Batch) (next : Option Cursor)
  /-- The pass is over. -/
  | ended
  | broken (fault : Fault)

/-- What taking a batch gives, with the notes made on the way and the state afterwards. -/
structure Pull (σ : Type) where
  pulled : Pulled
  notes : List Note
  state : σ

/-- How a run ended. -/
inductive Ending where
  | ended
  | broken (fault : Fault)
  /-- The caller stopped before the pass was over. -/
  | stopped

/-- What a run gives: the batches, the notes, how it ended, and the state afterwards. -/
structure Run (σ : Type) where
  batches : List Batch
  ending : Ending
  notes : List Note
  state : σ

/-- What a run over single items gives. -/
structure ItemRun (σ : Type) where
  items : List Record
  ending : Ending
  /-- The fault of the last batch that was used up, if it had one. -/
  fault : Option PageFault
  notes : List Note
  state : σ

namespace Pager

variable {σ : Type}

/-- The most items on one page. -/
def batchSize (p : Pager) : Nat := p.listing.count

/-- The section that is requested for the next page. -/
def pageSection (p : Pager) (c : Cursor) : Section := .listing (p.listing.afterPages c.served)

/-- What the reply to the request for a page says about the listing. -/
def answerOf (p : Pager) : Reply → Except Fault PageAnswer
  | .response r =>
    .ok (match r.get? p.listing.kind.sectionType with
      | some s => .listing s
      | none => .noSection)
  | .refused fault => .ok (.refused fault)
  | .broken fault => .error fault

/-! ## One batch -/

/-- What is pulled when a page has been received, with the notes about it.  An empty page delivers
    nothing and ends the pass. -/
def settle : Received → Pulled × List Note
  | .delivered b next => (.batch b (some next), [])
  | .failed b => (.batch b none, [])
  | .empty last => (.ended, [last.finishNote])

/-- Takes the next batch of the pass that stands at the cursor. -/
def pullAt (d : Dispatcher σ) (p : Pager) (c : Cursor) (s : σ) : Pull σ :=
  if c.wantsMore p.limit then
    let answered := d.ask p.query (p.pageSection c) s
    match p.answerOf answered.reply with
    | .error fault => ⟨.broken fault, answered.notes, answered.state⟩
    | .ok answer =>
      let (notes, received) := c.receive p.limit p.listing.kind.sectionType answer
      let (pulled, ending) := settle received
      ⟨pulled, answered.notes ++ notes ++ ending, answered.state⟩
  else ⟨.ended, [c.finishNote], s⟩

/-- Takes the next batch of a pass; a pass without a cursor is over. -/
def pull (d : Dispatcher σ) (p : Pager) (pass : Option Cursor) (s : σ) : Pull σ :=
  match pass with
  | some c => p.pullAt d c s
  | none => ⟨.ended, [], s⟩

/-! ## Batches -/

/-- Takes at most `most` batches of a pass. -/
def runFrom (d : Dispatcher σ) (p : Pager) : Nat → Option Cursor → σ → Run σ
  | 0, _, s => ⟨[], .stopped, [], s⟩
  | most + 1, pass, s =>
    let first := p.pull d pass s
    match first.pulled with
    | .ended => ⟨[], .ended, first.notes, first.state⟩
    | .broken fault => ⟨[], .broken fault, first.notes, first.state⟩
    | .batch b next =>
      let rest := p.runFrom d most next first.state
      ⟨b :: rest.batches, rest.ending, first.notes ++ rest.notes, rest.state⟩

/-- Takes at most `most` batches of a new pass. -/
def run (d : Dispatcher σ) (p : Pager) (most : Nat) (s : σ) : Run σ :=
  p.runFrom d most (some Cursor.start) s

/-! ## Single items -/

/-- Takes items of a pass from at most `fuel` pulls: all of them, or as many as wanted, of which
    there must be one at least.  The run stops at the last item wanted, and the fault of a batch
    counts once its items are used up and another one is asked for. -/
def itemsFrom (d : Dispatcher σ) (p : Pager) :
    Nat → Option Nat → Option Cursor → Option PageFault → σ → ItemRun σ
  | 0, _, _, fault, s => ⟨[], .stopped, fault, [], s⟩
  | fuel + 1, wanted, pass, fault, s =>
    let first := p.pull d pass s
    match first.pulled with
    | .ended => ⟨[], .ended, fault, first.notes, first.state⟩
    | .broken broke => ⟨[], .broken broke, fault, first.notes, first.state⟩
    | .batch b next =>
      let goOn (left : Option Nat) : ItemRun σ :=
        let rest := p.itemsFrom d fuel left next (b.fault.or fault) first.state
        { rest with items := b.items ++ rest.items, notes := first.notes ++ rest.notes }
      match wanted with
      | none => goOn none
      | some n =>
        if n ≤ b.items.length then ⟨b.items.take n, .stopped, fault, first.notes, first.state⟩
        else goOn (some (n - b.items.length))

/-- Takes items of a new pass: all of them, or as many as wanted.  The pager keeps the fault that
    the pass met; a pass of which nothing is wanted does not begin. -/
def takeItems (d : Dispatcher σ) (p : Pager) (fuel : Nat) (wanted : Option Nat) (s : σ) :
    ItemRun σ × Pager :=
  if wanted = some 0 then (⟨[], .stopped, p.lastFault, [], s⟩, p)
  else
    let items := p.itemsFrom d fuel wanted (some Cursor.start) none s
    (items, { p with lastFault := items.fault })

/-! ## Transcripts -/

/-- What the caller is told during a pass. -/
inductive Told where
  /-- A batch: its items and its fault. -/
  | batch (items : List Record) (fault : Option PageFault)
  /-- The pass is over. -/
  | complete

/-- Takes the batches of a new pass and tells the caller each of them; when the pass is over, the
    caller is told so if it wants to be. -/
def execute (d : Dispatcher σ) (p : Pager) (fuel : Nat) (tellEnd : Bool) (s : σ) :
    List Told × Run σ :=
  let all := p.run d fuel s
  let told := all.batches.map fun b => Told.batch b.items b.fault
  match all.ending with
  | .ended => (if tellEnd then told ++ [.complete] else told, all)
  | _ => (told, all)

/-! ## Counting -/

/-- The total that a reply reports for a section, or zero when it reports none. -/
def totalOf (sectionType : String) : Reply → Except Fault Int
  | .response r => .ok (((r.get? sectionType).bind (·.total)).getD 0)
  | .refused fault => .error (.dispatch fault)
  | .broken fault => .error fault

/-- The number of matches that the service reports. -/
def count (d : Dispatcher σ) (p : Pager) (s : σ) : Except Fault Int × Answered σ :=
  let answered := d.ask p.query (.listing p.listing.firstItem) s
  (totalOf p.listing.kind.sectionType answered.reply, answered)

end Pager

end NewsSearch
