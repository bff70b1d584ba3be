import NewsSearch.Json.Reader
import NewsSearch.Report.Record

/-!
What would be sent.

For every search the compiled request is shown: the name and the kind of the search, the path, and
the body.  In the body the query document travels as text; here it is shown as an object.
-/

namespace NewsSearch.Command

/-- A request body with its query document as an object. -/
def withDocument (body : Record) : Except Fault Record :=
  match body.get? "query" with
  | some (.text s) =>
    match Json.read s with
    | .ok document => .ok (body.set "query" document)
    | .error fault => .error (.failure fault.message)
  | _ => .ok body

/-- What is shown for a search. -/
def compiledRequest (n : NamedSearch) : Except Fault Data := do
  let q := Query.search n.search
  let body ← withDocument (← q.body [])
  .ok (.map (Record.ofTexts [
    ("name", Report.optionalText n.name),
    ("type", .text n.search.subject.target.word),
    ("path", .text q.path),
    ("payload", .map body)]))

/-- What is shown for all searches; a text without a form in bytes cannot be shown. -/
def compiledText (searches : List NamedSearch) : Except Fault String := do
  let requests ← searches.mapM compiledRequest
  let text ← (Json.write Json.file (.list requests)).mapError fun fault => .type (.json fault)
  match Text.encodingFault? text with
  | some fault => .error (.encoding fault)
  | none => .ok text

end NewsSearch.Command
