import NewsSearch.Json.Writer
import NewsSearch.Search.Outcome

/-!
Outcomes as objects, and the file that holds them.

The object of an outcome has the name and the kind of the search, its compiled document, what the
service reported, the fault if there was one, and the items as the service sent them.  A file holds
the list of the objects of all outcomes, in order.
-/

namespace NewsSearch.Report

/-- A text that may be missing. -/
def optionalText : Option String → Data
  | some s => .text s
  | none => .null

/-- An integer that may be missing. -/
def optionalInt : Option Int → Data
  | some n => .int n
  | none => .null

/-- The object of an outcome. -/
def record (o : Outcome) : Data :=
  .map (Record.ofTexts [
    ("name", optionalText o.search.name),
    ("type", .text o.search.search.subject.target.word),
    ("query", .map o.search.search.document),
    ("total_results", optionalInt o.total),
    ("pages", .int o.pages),
    ("error", optionalText (o.fault.map (·.message))),
    ("items", .list (o.items.map .map))])

/-- The text of a file that holds the outcomes. -/
def fileText (outcomes : List Outcome) : Except Fault String :=
  (Json.writeLenient Json.file (.list (outcomes.map record))).mapError fun fault =>
    .type (.json fault)

end NewsSearch.Report
