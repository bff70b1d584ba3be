import NewsSearch.Data.Wording
import NewsSearch.Mapping
import NewsSearch.Text.Digit

/-!
Sections of a response.

The service answers with one object per section.  Decoding keeps what is usable and passes over the
rest: the items are those elements of the list of results that are objects, and a counter is an
integer or a text of digits.  Two things in a response are a fault, and either ends the decoding of
the whole: a counter that is a text of digits and yet denotes no number, and an error that cannot be
written out.  Of one section the counters are read first, in the order of `ResponseSection`, and
then the error; the sections are decoded in their order, so the first fault in that order is the one
that is reported.
-/

namespace NewsSearch

open Text

/-- One decoded section of a response. -/
structure ResponseSection where
  name : Scalar
  items : List Record
  total : Option Int
  page : Option Int
  pages : Option Int
  count : Option Int
  /-- The error that the service reports for the section. -/
  error : Option String

/-- A decoded response: its sections in order. -/
abbrev Response := List (Scalar × ResponseSection)

namespace ResponseSection

/-- The integer that a counter gives: an integer, or a text of digits with blanks around them.
    Other values give none. -/
def counter? (d : Data) : Except Fault (Option Int) :=
  match d with
  | .int n => .ok (some n)
  | .text s =>
    let stripped := strip s
    if isDigits stripped.toList then
      match integerTo 10 stripped with
      | .ok n => .ok (some n)
      | .error fault => .error (.value (.integer fault))
    else .ok none
  | _ => .ok none

/-- The elements of a list that are objects. -/
def objects (d : Data) : List Record :=
  match d with
  | .list items => items.filterMap (·.entries?)
  | _ => []

/-- The error that a value reports: what counts as true does, in words. -/
def reported (d : Data) : Except Fault (Option String) :=
  if d.truthy then d.wording.map some else .ok none

/-- The error by which a section fails.  An empty text reports none. -/
def failure? (s : ResponseSection) : Option String := s.error.filter (· ≠ "")

/-- Decodes the object of one section. -/
def ofRecord (name : Scalar) (data : Record) : Except Fault ResponseSection := do
  let total ← counter? (data.getD "totalResults")
  let page ← counter? (data.getD "page")
  let pages ← counter? (data.getD "pages")
  let count ← counter? (data.getD "count")
  let error ← reported (data.getD "error")
  .ok {
    name := name
    items := objects (data.getD "results")
    total := total
    page := page
    pages := pages
    count := count
    error := error }

end ResponseSection

namespace Response

/-- Decodes every entry that is an object; the others are passed over. -/
def ofRecord : Record → Except Fault Response
  | [] => .ok []
  | (name, .map data) :: rest => do
    let decoded ← ResponseSection.ofRecord name data
    let others ← ofRecord rest
    .ok ((name, decoded) :: others)
  | _ :: rest => ofRecord rest

/-- Decodes the entries of a value that should be a mapping. -/
def ofData (sections : Data) : Except Fault Response := do
  ofRecord (← sections.entriesBy "items")

/-- The section of the given name. -/
def get? (r : Response) (name : String) : Option ResponseSection :=
  (r.find? fun (key, _) => key.same (.text name)).map (·.2)

end Response

end NewsSearch
