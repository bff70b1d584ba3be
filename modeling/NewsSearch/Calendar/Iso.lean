import NewsSearch.Calendar.Moment
import NewsSearch.Number.Power
import NewsSearch.Text.Integer

/-!
Reading dates and times in the international notation.

A text names a day as `YYYY-MM-DD` or `YYYYMMDD`.  A single character may follow, usually `T` or a
space, and then a time: hours, minutes and seconds, either all separated by colons or not at all,
later ones optional; a fraction of a second behind a point or a comma; and a zone, which is `Z` or a
signed offset of hours and perhaps minutes, such as `HH`, `HHMM` or `HH:MM`.  Twenty-four o'clock is
the midnight that ends the day.  Whether the numbers are in range is judged when all of them are
read.

The notation wants two digits for each part of a time, but readers differ in how much they insist on
that.  A reader cuts the time into slices of two characters, the last of which may be shorter, and
`number?` says which slices are numbers: a strict reader demands two digits (`twoDigitNumber?`), a
lenient one takes every slice that denotes an integer (`Text.integerOf?`), so that it also reads
`10:5`, `T 1` or `+10:3`.  `momentIn?` is the reading for any such rule.

Programs do not depend on the rule.  They are written for any `MomentReader`, and the strict one is
used where none is named.

`isCalendarDate` is the coarser test that a text begins with a complete date.
-/

namespace NewsSearch.Calendar

open NewsSearch.Text

/-- The number of exactly two digits. -/
def twoDigitNumber? (cs : List Char) : Option Int :=
  match twoDigits? cs with
  | some (n, []) => some n
  | _ => none

section Times

variable (number? : List Char → Option Int)

/-- The number in the next two characters, or in the last one, and what follows. -/
def slice? (cs : List Char) : Option (Int × List Char) := (number? (cs.take 2)).map (·, cs.drop 2)

/-! ## Zones -/

/-- Whether a zone starts here. -/
def atZone : List Char → Bool
  | c :: _ => c = '-' || c = '+' || c = 'Z' || c = 'z'
  | [] => false

/-- The lengths that an offset may have behind its sign: two for the hours, then perhaps the minutes
    with or without a colon. -/
def offsetLengths : List Nat := [2, 4, 5]

/-- The minutes at the end of an offset, behind a colon or not; they may be missing. -/
def offsetMinutes? : List Char → Option Int
  | [] => some 0
  | ':' :: rest => number? rest
  | rest => number? rest

/-- The offset in seconds that a zone names.  The hours are the two characters behind the sign. -/
def zone? (cs : List Char) : Option Int :=
  match cs with
  | ['Z'] | ['z'] => some 0
  | mark :: body =>
    if (mark = '+' ∨ mark = '-') ∧ body.length ∈ offsetLengths then do
      let hours ← number? (body.take 2)
      let minutes ← offsetMinutes? number? (body.drop 2)
      if 59 < minutes ∨ 23 < hours then none
      else
        let offset := (hours * 60 + minutes) * 60
        some (if mark = '-' then -offset else offset)
    else none
  | [] => none

/-- What may stand behind a slice: the end, or a zone. -/
def zoneOrEnd? (cs : List Char) : Option (Option Int) :=
  if cs.isEmpty then some none else if atZone cs then (zone? number? cs).map some else none

/-! ## Times -/

/-- The parts of a time before they are checked. -/
structure ClockReading where
  hour : Int
  minute : Int
  second : Int
  microsecond : Nat
  offset : Option Int
  deriving DecidableEq, Repr

/-- The microseconds in the digits of a fraction; digits past the sixth are cut off. -/
def microseconds (digits : List Char) : Nat :=
  let kept := digits.take 6
  kept.foldl (fun n c => 10 * n + (c.toNat - 48)) 0 * Number.pow10 (6 - kept.length)

/-- What follows the seconds: perhaps a fraction, then the end or a zone. -/
def afterSecond? (cs : List Char) : Option (Nat × Option Int) :=
  match cs with
  | c :: rest =>
    let digits := rest.takeWhile Char.isDigit
    if (c = '.' ∨ c = ',') ∧ !digits.isEmpty then
      (zoneOrEnd? number? (rest.dropWhile Char.isDigit)).map fun zone => (microseconds digits, zone)
    else (zoneOrEnd? number? cs).map fun zone => (0, zone)
  | [] => some (0, none)

/-- What follows the minutes; `separated` tells whether colons separate the parts. -/
def afterMinute? (separated : Bool) (cs : List Char) : Option (Int × Nat × Option Int) :=
  if cs.isEmpty || atZone cs then (zoneOrEnd? number? cs).map fun zone => (0, 0, zone)
  else do
    let (second, rest) ← match separated, cs with
      | true, ':' :: rest => slice? number? rest
      | true, _ => none
      | false, cs => slice? number? cs
    let (microsecond, zone) ← afterSecond? number? rest
    some (second, microsecond, zone)

/-- What follows the hours. -/
def afterHour? (cs : List Char) : Option (Int × Int × Nat × Option Int) :=
  if cs.isEmpty || atZone cs then (zoneOrEnd? number? cs).map fun zone => (0, 0, 0, zone)
  else do
    let (separated, (minute, rest)) ← match cs with
      | ':' :: rest => (slice? number? rest).map (true, ·)
      | cs => (slice? number? cs).map (false, ·)
    let (second, microsecond, zone) ← afterMinute? number? separated rest
    some (minute, second, microsecond, zone)

/-- The parts of a time of at least two characters. -/
def clock? (cs : List Char) : Option ClockReading :=
  if cs.length < 2 then none
  else if atZone cs then (zone? number? cs).map fun zone => ⟨0, 0, 0, 0, some zone⟩
  else do
    let (hour, rest) ← slice? number? cs
    let (minute, second, microsecond, zone) ← afterHour? number? rest
    some ⟨hour, minute, second, microsecond, zone⟩

end Times

/-! ## Dates and moments -/

/-- The leading `YYYY-MM-DD` or `YYYYMMDD` of a text, with `digit?` telling what counts as a digit,
    and what follows it. -/
def leadingDate? (digit? : Char → Option Nat) (cs : List Char) :
    Option (Nat × Nat × Nat × List Char) :=
  let number (ds : List Char) : Option Nat :=
    ds.foldl (fun n c => n.bind fun n => (digit? c).map fun d => 10 * n + d) (some 0)
  match cs with
  | a :: b :: c :: d :: '-' :: e :: f :: '-' :: g :: h :: rest => do
    some (← number [a, b, c, d], ← number [e, f], ← number [g, h], rest)
  | a :: b :: c :: d :: e :: f :: g :: h :: rest => do
    some (← number [a, b, c, d], ← number [e, f], ← number [g, h], rest)
  | _ => none

/-- Whether the text starts with a complete date, in digits of any script, and ends there or goes on
    with a `T` or a space. -/
def isCalendarDate (cs : List Char) : Bool :=
  match leadingDate? digitValue? cs with
  | some (_, _, _, []) => true
  | some (_, _, _, c :: _) => c = 'T' || c = ' '
  | none => false

/-- The day after a text's date when its clock reads twenty-four o'clock, and the day otherwise. -/
def momentOf? (date : Date) (clock : ClockReading) : Option Moment :=
  if clock.hour = 24 then
    if clock.minute = 0 ∧ clock.second = 0 ∧ clock.microsecond = 0 then
      date.next?.map fun next => ⟨next, .midnight, clock.offset⟩
    else none
  else
    (TimeOfDay.make clock.hour clock.minute clock.second clock.microsecond).toOption.map
      fun time => ⟨date, time, clock.offset⟩

/-- The moment that a text in the international notation names; a date alone names its midnight.
    Only ASCII characters may stand in a time. -/
def momentIn? (number? : List Char → Option Int) (s : String) : Option Moment := do
  let asciiDigit? (c : Char) : Option Nat := if c.isDigit then some (c.toNat - 48) else none
  let (year, month, day, rest) ← leadingDate? asciiDigit? s.toList
  let date ← Date.of? year month day
  match rest with
  | [] => some ⟨date, .midnight, none⟩
  | _ :: time =>
    if s.toList.all fun c => c.toNat < 128 then momentOf? date (← clock? number? time) else none

/-! ## Readers -/

/-- A reader of moments: which texts it takes for a moment, and for which. -/
class MomentReader where
  readMoment? : String → Option Moment

export MomentReader (readMoment?)

namespace MomentReader

/-- The reader that demands two digits for each part of a time. -/
instance strict : MomentReader := ⟨momentIn? twoDigitNumber?⟩

/-- The reader that takes every slice of a time that denotes an integer. -/
@[reducible] def lenient : MomentReader := ⟨momentIn? integerOf?⟩

end MomentReader

/-! ## Examples -/

example : (readMoment? "2024-01-05").map (·.date.iso) = some "2024-01-05" := by decide
example : (readMoment? "20241231T24:00").map (·.date.iso) = some "2025-01-01" := by decide
example : (readMoment? "2024-01-05T25:00").isSome = false := by decide
example : (MomentReader.strict.readMoment? "2024-01-05T10:5").isSome = false := by decide
example : (MomentReader.lenient.readMoment? "2024-01-05T10:5").map (·.text " ") =
    some "2024-01-05 10:05:00" := by decide
example : (readMoment? "2024-01-05 10:20:30,5+01").map (·.text " ") =
    some "2024-01-05 10:20:30.500000+01:00" := by decide
example : isCalendarDate "2024-01-05x".toList = false := by decide
example : isCalendarDate "2024-1-5".toList = false := by decide

end NewsSearch.Calendar
