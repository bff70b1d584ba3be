import NewsSearch.Fault

/-!
The formats in which outcomes are written.

Outcomes are shown on the console, saved to a file, or both.  At least one format must be chosen.
-/

namespace NewsSearch.Report

/-- A format of the output. -/
inductive Format where
  | console
  | json
  deriving DecidableEq, Repr

namespace Format

/-- The name of a format in settings. -/
def name : Format → String
  | console => "console"
  | json => "json"

/-- All formats, in the order in which they are written. -/
def every : List Format := [console, json]

/-- The formats that are named, in the order in which they are written. -/
def chosen (names : List String) : Except Fault (List Format) :=
  match every.filter fun f => names.contains f.name with
  | [] => .error (.value .noWriters)
  | formats => .ok formats

end Format

end NewsSearch.Report
