import NewsSearch.Calendar.Moment
import NewsSearch.Data.Scalar
import NewsSearch.Fault
import NewsSearch.Text.Base64
import NewsSearch.Text.Decimal
import NewsSearch.Text.Letter
import NewsSearch.Yaml.Kind

/-!
The values of scalars.

A scalar of a given kind is read by the rules of the kind, and a text that they do not fit is a
fault.  Underscores in numbers do not count.  An integer may be binary or hexadecimal behind `0b` or
`0x` and is octal behind another zero; numbers may be given in groups of sixty separated by colons.
Days and moments have to exist in the calendar.
-/

namespace NewsSearch.Yaml

open Calendar Number Text

/-! ## Truth values -/

/-- The truth values by their names in small letters. -/
def truthValues : List (String × Bool) := [
  ("yes", true), ("no", false), ("true", true), ("false", false), ("on", true), ("off", false)]

/-- The truth value that a text names, in letters of any case. -/
def truthValue (s : String) : Except Fault Bool :=
  match truthValues.lookup (lower s) with
  | some b => .ok b
  | none => .error (.noTruthValue (lower s))

/-! ## Numbers -/

/-- The sign of a number and its text without it, underscores left out.  There has to be a first
    character to look at. -/
def signAndBody (s : String) : Except Fault (Bool × List Char) :=
  let cs := s.toList.filter (· ≠ '_')
  if cs.isEmpty then .error .noCharacter else .ok (signOf cs)

/-- The integer that characters denote to a base. -/
def integerOf (base : Nat) (cs : List Char) : Except Fault Int :=
  (integerTo base (String.ofList cs)).mapError fun fault => .value (.integer fault)

/-- An integer without its sign. -/
def magnitude (cs : List Char) : Except Fault Int :=
  match cs with
  | [] => .error .noCharacter
  | ['0'] => .ok 0
  | '0' :: 'b' :: digits => integerOf 2 digits
  | '0' :: 'x' :: digits => integerOf 16 digits
  | '0' :: _ => integerOf 8 cs
  | _ => do
    let groups ← (colonParts cs).mapM (integerOf 10)
    .ok (groups.foldl (fun n group => 60 * n + group) 0)

/-- The integer that a text denotes. -/
def integer (s : String) : Except Fault Int := do
  let (negative, body) ← signAndBody s
  let size ← magnitude body
  .ok (if negative then -size else size)

/-- The decimal number that characters denote. -/
def decimalOf (cs : List Char) : Except Fault Float :=
  match decimal? (String.ofList cs) with
  | some x => .ok x
  | none => .error (.value (.decimal (String.ofList cs)))

/-- The sum of groups, each sixty times as much as the one before it; `unit` is what the first one
    counts.  The last group comes first, and the sum is taken in this order. -/
def sixtyBasedSum (sum : Float) (unit : Nat) : List Float → Except Fault Float
  | [] => .ok sum
  | group :: rest =>
    match ofInt? unit with
    | some factor => sixtyBasedSum (sum + group * factor) (unit * 60) rest
    | none => .error .overflow

/-- The decimal number that a text denotes. -/
def decimal (s : String) : Except Fault Float := do
  let (negative, body) ← signAndBody (lower s)
  let toSign (x : Float) : Float := if negative then -x else x
  if body = ".inf".toList then .ok (infinity negative)
  else if body = ".nan".toList then .ok notANumber
  else if body.contains ':' then
    let groups ← (colonParts body).mapM decimalOf
    .ok (toSign (← sixtyBasedSum 0 1 groups.reverse))
  else .ok (toSign (← decimalOf body))

/-! ## Days and moments -/

/-- The microseconds that digits behind the point denote; digits past the sixth do not count. -/
def microseconds (digits : List Char) : Nat :=
  let kept := digits.take 6
  numberTo 10 kept * pow10 (6 - kept.length)

/-- The moment of a day with the numbers of a clock; its offset is judged first. -/
def Clock.moment (c : Clock) (year month day : Nat) : Except CalendarFault Moment := do
  let offset ← match c.offset with
    | some seconds => (checkedOffset seconds).map some
    | none => .ok none
  let date ← Date.make year month day
  let time ← TimeOfDay.make c.hour c.minute c.second (microseconds c.fraction)
  .ok ⟨date, time, offset⟩

/-- The day or moment with these numbers. -/
def Stamp.scalar (s : Stamp) : Except CalendarFault Scalar :=
  match s.clock with
  | none => (Date.make s.year s.month s.day).map .date
  | some c => (c.moment s.year s.month s.day).map .moment

/-- The day or moment that a text names. -/
def calendarScalar (s : String) : Except Fault Scalar :=
  match stamp? (withoutLineEnd s.toList) with
  | some stamp => stamp.scalar.mapError fun fault => .value (.calendar fault)
  | none => .error (.noAttribute "NoneType" "groupdict")

/-! ## Bytes -/

/-- Why a text does not stand for bytes. -/
def badBytes : Fault := .failure "the text does not stand for bytes"

/-- The bytes that a text stands for. -/
def bytes (s : String) : Except Fault Scalar :=
  match base64Bytes? s with
  | some bs => .ok (.other "bytes" (shownBytes bs))
  | none => .error badBytes

/-! ## Scalars -/

/-- Why a mark with a meaning of its own has no value. -/
def markAsValue : Fault := .failure "this mark can only be a key"

/-- The value of a scalar of a kind. -/
def ScalarKind.read (kind : ScalarKind) (s : String) : Except Fault Scalar :=
  match kind with
  | null => .ok .null
  | bool => (truthValue s).map .bool
  | int => (integer s).map .int
  | float => (decimal s).map .float
  | stamp => calendarScalar s
  | text => .ok (.text s)
  | binary => Yaml.bytes s
  | merge => .error markAsValue
  | value => .error markAsValue

example : (integer "010").toOption = some 8 := by decide +kernel
example : (integer "-1:30").toOption = some (-90) := by decide +kernel
example : (integer "0x_F").toOption = some 15 := by decide +kernel
example : (integer "0x_").toOption = none := by decide +kernel
example : (integer "1_000").toOption = some 1000 := by decide +kernel
example : (integer "3.7").toOption = none := by decide +kernel

end NewsSearch.Yaml
