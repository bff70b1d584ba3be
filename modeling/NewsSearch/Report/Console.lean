import NewsSearch.Report.Text
import NewsSearch.Search.Outcome

/-!
Outcomes as notes for the console.

An outcome begins with a heading and a summary.  When it is incomplete it says why, and the items
follow line by line.  The heading is noted before the text of the items is made, so it stays when
the text cannot be made; the fault of that is handed on.
-/

namespace NewsSearch.Report

open Number Text

/-- What showing an outcome gives: the notes, and the fault that ended it. -/
structure Shown where
  notes : List Note
  fault : Option Fault

/-- The notes before the items of an outcome. -/
def headingNotes (o : Outcome) : List Note :=
  let kind := o.search.search.subject.target.word
  let incomplete := match o.fault with
    | some fault => [Note.main .warning s!"Incomplete results: {fault.message}"]
    | none => []
  Note.main .info s!"=== {o.search.title} ({kind}) ===" ::
    Note.counting [o.total] (.main .info
      (s!"Fetched {natText o.items.length} {kind} from {natText o.pages} pages " ++
        s!"(total={Cursor.reportText o.total})")) ++ incomplete

/-- The notes for the items of an outcome, one for each line of their text. -/
def itemNotes (o : Outcome) : Except Fault (List Note) :=
  if o.items.isEmpty then .ok []
  else (render o.search.search.subject o.items).map fun text => (lines text).map (Note.main .info)

/-- What showing an outcome gives. -/
def display (o : Outcome) : Shown :=
  match itemNotes o with
  | .ok notes => ⟨headingNotes o ++ notes, none⟩
  | .error fault => ⟨headingNotes o, some fault⟩

end NewsSearch.Report
