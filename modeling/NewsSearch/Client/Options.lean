import NewsSearch.Client.Session
import NewsSearch.Query.Explicit

/-!
Clients from settings.

A client is made from settings that are checked in a fixed order: first how often a failed request
is made again, then the address, then the least delay.
-/

namespace NewsSearch

open Text

variable {τ : Type} [Seconds τ]

namespace Client

/-- The address without slashes at its end. -/
def withoutSlashes (host : String) : String :=
  String.ofList (host.toList.reverse.dropWhile (· = '/')).reverse

/-- The client with these settings. -/
def make (apiKey : Data) (host : String) (minDelay : τ) (retries : Int) (timeout : Data)
    (verbose : Bool) : Except Fault (Client τ) := do
  if retries < 0 then throw (.value .retryCount)
  let pacer ← Pacer.make minDelay
  .ok ⟨apiKey, withoutSlashes host, pacer.minDelay, .times retries.toNat, timeout, verbose,
    .session⟩

/-! ## Settings as arguments -/

/-- The address of the service unless said otherwise. -/
def standardHost : String := "https://eventregistry.org"

/-- The settings of a client as arguments, by name, as they are unless said otherwise. -/
def standardArguments : List (String × Data) := [
  ("api_key", .null),
  ("host", .text standardHost),
  ("min_delay_between_requests", .float 0.5),
  ("repeat_failed_request_count", .int 2),
  ("timeout", .float 60),
  ("verbose_output", .bool false),
  ("session", .null)]

/-- Whether a number is negative; only numbers and truth values can be compared with one. -/
def isNegative : Data → Except Fault Bool
  | .int n => .ok (decide (n < 0))
  | .bool _ => .ok false
  | .float x => .ok (decide (x < 0))
  | d => .error (.type (.notComparable d.fullTypeName "int"))

/-- How often a failed request is made again. -/
def retriesOf (d : Data) : Except Fault Retries := do
  if ← isNegative d then throw (.value .retryCount)
  match d with
  | .float x => .ok (.fraction x)
  | .int n => .ok (.times n.toNat)
  | .bool b => .ok (.times (if b then 1 else 0))
  | _ => .error (.type (.notComparable d.fullTypeName "int"))

/-- The address of the service. -/
def hostOf : Data → Except Fault String
  | .text s => .ok s
  | d => .error (.noAttribute d.fullTypeName "rstrip")

/-- The least delay between two requests. -/
def minDelayOf (d : Data) : Except Fault Float := do
  if ← isNegative d then throw (.value .minDelay)
  match d with
  | .float x => .ok x
  | .int n =>
    match Number.ofInt? n with
    | some x => .ok x
    | none => .error .overflow
  | .bool b => .ok (if b then 1 else 0)
  | _ => .error (.type (.notComparable d.fullTypeName "int"))

/-- What the client posts through.  What counts as false stands for a session of its own; no other
    value that can be given is a session. -/
def carrierOf (d : Data) : Carrier := if d.truthy then .other d.fullTypeName else .session

/-- The client with the given arguments. -/
def ofArguments (arguments : List (String × Data)) : Except Fault (Client Float) := do
  checkNames "EventRegistryApiClient.__init__" ["self"] (standardArguments.map (·.1)) arguments
  let given (name : String) : Data :=
    ((arguments.lookup name).or (standardArguments.lookup name)).getD .null
  let retries ← retriesOf (given "repeat_failed_request_count")
  let host ← hostOf (given "host")
  let minDelay ← minDelayOf (given "min_delay_between_requests")
  .ok ⟨given "api_key", withoutSlashes host, minDelay, retries, given "timeout",
    (given "verbose_output").truthy, carrierOf (given "session")⟩

end Client

example : Client.withoutSlashes "http://h//" = "http://h" := by decide +kernel

end NewsSearch
