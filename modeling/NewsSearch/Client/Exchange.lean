import NewsSearch.Fault
import NewsSearch.Json.Reader
import NewsSearch.Data.Display
import NewsSearch.Text.Blank

/-!
One exchange with the service: a request goes out and something comes of it.

What comes of it is judged in a fixed order: a failure of the transport, unless the address itself
is unusable, may pass; so may a status that asks to try again, and an answer that is no JSON object.
Any other status from 400 on is final, and so is an answer with an error in it.
-/

namespace NewsSearch

/-- A request as it goes out. -/
structure Post where
  url : String
  body : Record
  timeout : Data

/-- What comes of a request. -/
inductive Arrival where
  /-- The transport failed: the name of the failure and its text. -/
  | failed (name text : String)
  | answered (status : Int) (text : String)
  deriving DecidableEq, Repr

/-- How an exchange is judged. -/
inductive Verdict where
  | success (body : Record)
  /-- Another attempt may mend it. -/
  | transient (fault : TransientFault)
  | final (fault : DispatchFault)

namespace Arrival

/-- The failures of an address that cannot be requested at all. -/
def addressFailures : List String :=
  ["InvalidURL", "InvalidProxyURL", "MissingSchema", "InvalidSchema"]

/-- The statuses that ask to try again. -/
def retryable : List Int := [429, 500, 502, 503, 504]

/-- The most code points of an answer that are quoted. -/
def snippetLength : Nat := 200

/-- The beginning of an answer, without blanks around it. -/
def snippet (text : String) : String :=
  let body := Text.codePoints (Text.trim text.toList)
  if body.length ≤ snippetLength then Text.textOf body
  else Text.textOf (body.take snippetLength) ++ "..."

/-- Judges an answer that is neither refused nor to be tried again. -/
def judgeBody (attempt : Nat) (status : Int) (text : String) : Verdict :=
  match Json.read text with
  | .error _ => .transient (.notJson status)
  | .ok (.map body) =>
    match Record.get? "error" body with
    | some error => .final (.service error.plain attempt status)
    | none => .success body
  | .ok _ => .transient (.notAnObject status)

/-- Judges what came of the given attempt at a request to the URL. -/
def judge (url : String) (attempt : Nat) : Arrival → Verdict
  | failed name text =>
    if addressFailures.contains name then .final (.address url name text attempt)
    else .transient (.transport name text)
  | answered status text =>
    if retryable.contains status then .transient (.status status)
    else if 400 ≤ status then .final (.refused (snippet text) attempt status)
    else judgeBody attempt status text

end Arrival

end NewsSearch
