import NewsSearch.Number.Numeral

/-!
Failed requests.

A single attempt may fail in a way that another attempt can mend: that is a `TransientFault`.  A
request fails for good when the service refuses it or when its attempts are used up: that is a
`DispatchFault`.  Every dispatch fault knows how many attempts were made and, where there was a
response, its status.
-/

namespace NewsSearch

open Number

/-- Why an attempt failed in a way that may pass. -/
inductive TransientFault where
  /-- The transport failed: the name of the failure and its text. -/
  | transport (name text : String)
  /-- The service answered with a status that asks to try again. -/
  | status (code : Int)
  | notJson (code : Int)
  | notAnObject (code : Int)
  deriving DecidableEq, Repr

/-- The wording of a transient fault. -/
def TransientFault.message : TransientFault → String
  | transport name text => s!"{name}: {text}"
  | status code => s!"HTTP {intText code}"
  | notJson _ => "Malformed response: body is not JSON"
  | notAnObject _ => "Malformed response: expected a JSON object"

/-- The status of the response, where there was one. -/
def TransientFault.code? : TransientFault → Option Int
  | transport .. => none
  | status code => some code
  | notJson code => some code
  | notAnObject code => some code

/-- Why a request failed for good. -/
inductive DispatchFault where
  /-- A dispatcher's own report. -/
  | reported (text : String) (attempts : Int) (code : Option Int)
  /-- The address is not one that can be requested; `name` is the kind of failure. -/
  | address (url name text : String) (attempts : Int)
  /-- The service refused the request; `snippet` is the beginning of its answer. -/
  | refused (snippet : String) (attempts : Int) (code : Int)
  /-- The service reported an error in its answer. -/
  | service (error : String) (attempts : Int) (code : Int)
  /-- All attempts failed; `last` is the fault of the last one. -/
  | exhausted (path : String) (attempts : Int) (last : TransientFault)
  deriving DecidableEq, Repr

namespace DispatchFault

/-- The wording of a dispatch fault. -/
def message : DispatchFault → String
  | reported text _ _ => text
  | address url _ text _ => s!"Invalid request URL {url}: {text}"
  | refused snippet _ code => s!"HTTP {intText code}: {snippet}"
  | service error _ _ => s!"Service error: {error}"
  | exhausted path attempts last =>
    s!"Request to {path} failed after {intText attempts} attempts: {last.message}"

/-- The number of attempts made. -/
def attempts : DispatchFault → Int
  | reported _ n _ | address _ _ _ n | refused _ n _ | service _ n _ | exhausted _ n _ => n

/-- The status of the last response, where there was one. -/
def code? : DispatchFault → Option Int
  | reported _ _ code => code
  | address .. => none
  | refused _ _ code => some code
  | service _ _ code => some code
  | exhausted _ _ last => last.code?

end DispatchFault

end NewsSearch
