import NewsSearch.Calendar.Date

/-!
Days with a time of day.

A `Moment` is a day, a time of day to the microsecond, and, when it is known, the offset of its
clock from universal time in seconds.  Two moments with a known offset are the same when they name
the same instant; without an offset they are compared field by field.
-/

namespace NewsSearch.Calendar

open NewsSearch.Number

/-- A time of day. -/
structure TimeOfDay where
  hour : Nat
  minute : Nat
  second : Nat
  microsecond : Nat
  inDay : hour < 24 ∧ minute < 60 ∧ second < 60 ∧ microsecond < 1000000
  deriving DecidableEq

/-- Midnight. -/
def TimeOfDay.midnight : TimeOfDay := ⟨0, 0, 0, 0, by decide⟩

/-- The time of day with these numbers; otherwise the first of them that is out of range. -/
def TimeOfDay.make (hour minute second : Int) (microsecond : Nat) :
    Except CalendarFault TimeOfDay :=
  if hour < 0 ∨ 23 < hour then .error .hour
  else if minute < 0 ∨ 59 < minute then .error .minute
  else if second < 0 ∨ 59 < second then .error .second
  else if h : hour.toNat < 24 ∧ minute.toNat < 60 ∧ second.toNat < 60 ∧ microsecond < 1000000 then
    .ok ⟨hour.toNat, minute.toNat, second.toNat, microsecond, h⟩
  else .error .second

/-- An offset from universal time in seconds; it is less than a day. -/
def checkedOffset (seconds : Int) : Except CalendarFault Int :=
  if seconds.natAbs < 86400 then .ok seconds else .error (.offset seconds)

/-- A day, a time of day, and perhaps the offset from universal time in seconds. -/
structure Moment where
  date : Date
  time : TimeOfDay
  offset : Option Int
  deriving DecidableEq

namespace Moment

/-- Microseconds since the beginning of the calendar, by the moment's own clock. -/
def ticks (m : Moment) : Int :=
  ((((m.date.ordinal * 24 + m.time.hour) * 60 + m.time.minute) * 60 + m.time.second : Nat) : Int)
    * 1000000 + m.time.microsecond

/-- Whether two moments are the same. -/
def same (a b : Moment) : Bool :=
  match a.offset, b.offset with
  | some x, some y => a.ticks - x * 1000000 == b.ticks - y * 1000000
  | none, none => a.ticks == b.ticks
  | _, _ => false

/-- The time of day as `HH:MM:SS`, with six further digits when it has microseconds. -/
def clockText (m : Moment) : String :=
  let two (n : Nat) : String := String.ofList (paddedDigits 2 n)
  let base := two m.time.hour ++ ":" ++ two m.time.minute ++ ":" ++ two m.time.second
  if m.time.microsecond = 0 then base
  else base ++ "." ++ String.ofList (paddedDigits 6 m.time.microsecond)

/-- The offset as a sign and `HH:MM`, with seconds when it has any. -/
def offsetText (offset : Int) : String :=
  let two (n : Nat) : String := String.ofList (paddedDigits 2 n)
  let size := offset.natAbs
  let mark := if offset < 0 then "-" else "+"
  let base := mark ++ two (size / 3600) ++ ":" ++ two (size / 60 % 60)
  if size % 60 = 0 then base else base ++ ":" ++ two (size % 60)

/-- The moment as text, with `separator` between the day and the time. -/
def text (separator : String) (m : Moment) : String :=
  m.date.iso ++ separator ++ m.clockText ++ (m.offset.map offsetText).getD ""

end Moment

example : Moment.offsetText (-19800) = "-05:30" := by decide

end NewsSearch.Calendar
