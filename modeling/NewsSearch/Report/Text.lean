import NewsSearch.Data.Wording
import NewsSearch.Number.Numeral
import NewsSearch.Query.Explicit
import NewsSearch.Text.Blank

/-!
Items as text for readers.

Every item is numbered and followed by a blank line.  Articles show their source, day, language and
address; events show their day, the number of their articles and their identifier.  What an item
lacks is shown as a dash.

The values that are shown may be of any kind, and a value can hold an integer that cannot be written
out.  A line is therefore kept as its parts, the words of the report and the values of the item, and
both questions are asked of the same lines: how they read (`text`), and whether they can be written
at all (`render`).  What an item holds besides the values shown does not matter for either.
-/

namespace NewsSearch.Report

open Number Text

/-! ## Lines -/

/-- A part of a line. -/
inductive Part where
  | words (s : String)
  /-- A value of the item, in words. -/
  | value (d : Data)

namespace Part

/-- How the part reads. -/
def text : Part → String
  | words s => s
  | value d => d.plain

/-- Whether the part is a value that cannot be written out. -/
def isTooLong : Part → Bool
  | words _ => false
  | value d => d.isTooLong

end Part

/-- A line from its parts. -/
abbrev Line := List Part

/-! ## Items -/

/-- What stands for something that is missing. -/
def dash : String := "-"

/-- The value, or a dash when it counts as false. -/
def orDash (d : Data) : Data := if d.truthy then d else .text dash

/-- The title of an event.  Titles may be given by language: the English one is preferred, then the
    first one, whatever it is. -/
def eventTitle (title : Data) : Data :=
  match title with
  | .map [] => .text ""
  | .map ((key, first) :: rest) =>
    let english := Record.getD "eng" ((key, first) :: rest)
    if english.truthy then english else first
  | d => if d.truthy then d else .text ""

/-- The title of the source of an article; it is missing when the source is no object. -/
def sourceTitle (item : Record) : Data :=
  match item.getD "source" with
  | .map source => Record.getD "title" source
  | _ => .null

/-- The lines for an article. -/
def articleLines (index : Nat) (item : Record) : List Line :=
  let url := item.getD "url"
  [[.words s!"{natText index}. ", .value (orDash (item.getD "title"))],
    [.words "   Source: ", .value (orDash (sourceTitle item)),
      .words "  Date: ", .value (orDash (item.getD "date")),
      .words "  Lang: ", .value (orDash (item.getD "lang"))]] ++
    if url.truthy then [[.words "   URL: ", .value url]] else []

/-- The lines for an event. -/
def eventLines (index : Nat) (item : Record) : List Line :=
  let given := eventTitle (item.getD "title")
  let title := if given.plain.isEmpty then .text dash else given
  [[.words s!"{natText index}. ", .value title],
    [.words "   Date: ", .value (orDash (item.getD "eventDate")),
      .words "  Articles: ", .value ((item.get? "totalArticleCount").getD (.text dash))],
    [.words "   URI: ", .value (orDash (item.getD "uri"))]]

/-- The lines for an item that has the given place. -/
def linesFor (subject : Subject) (index : Nat) (item : Record) : List Line :=
  match subject with
  | .articles => articleLines index item
  | .events => eventLines index item

/-- The lines for items that are counted from `index` on, each followed by an empty line. -/
def itemLines (subject : Subject) : Nat → List Record → List Line
  | _, [] => []
  | index, item :: rest => linesFor subject index item ++ [] :: itemLines subject (index + 1) rest

/-- The items as one text, which ends with a single line break. -/
def text (subject : Subject) (items : List Record) : String :=
  let lines := (itemLines subject 1 items).map fun line => String.join (line.map Part.text)
  stripEnd ("\n".intercalate lines) ++ "\n"

/-- The items as one text, if every value in it can be written out. -/
def render (subject : Subject) (items : List Record) : Except Fault String :=
  if (itemLines subject 1 items).any (·.any Part.isTooLong) then .error (.type (.json .integer))
  else .ok (text subject items)

end NewsSearch.Report
