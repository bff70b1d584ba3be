import NewsSearch.Number.Numeral

/-!
Calendar days.

A `Date` is a day of the Gregorian calendar between the years 1 and 9999; that it is a real day is
part of the type.  `Date.make` builds one from numbers and says which of them is out of range.  Two
texts belong to a day: `iso` pads the year to four digits, `wire` does not.
-/

namespace NewsSearch.Calendar

open NewsSearch.Number

/-- Why numbers do not name a day or a time of day. -/
inductive CalendarFault where
  | year (year : Int)
  | month
  | day
  | hour
  | minute
  | second
  /-- An offset of a day or more, in seconds. -/
  | offset (seconds : Int)
  deriving DecidableEq, Repr

/-- A span of seconds as the call that builds it: whole days, and what is left of a day. -/
def shownSpan (seconds : Int) : String :=
  let days := seconds.fdiv 86400
  let rest := seconds.fmod 86400
  let parts := (if days = 0 then [] else ["days=" ++ intText days]) ++
    (if rest = 0 then [] else ["seconds=" ++ intText rest])
  "datetime.timedelta(" ++ ", ".intercalate parts ++ ")"

/-- The wording of a fault. -/
def CalendarFault.message : CalendarFault → String
  | .year y => s!"year {intText y} is out of range"
  | .month => "month must be in 1..12"
  | .day => "day is out of range for month"
  | .hour => "hour must be in 0..23"
  | .minute => "minute must be in 0..59"
  | .second => "second must be in 0..59"
  | .offset seconds =>
    "offset must be a timedelta strictly between -timedelta(hours=24) and timedelta(hours=24), " ++
      s!"not {shownSpan seconds}."

/-- Whether the year has a 29th of February. -/
def isLeapYear (year : Nat) : Bool :=
  year % 4 == 0 && (year % 100 != 0 || year % 400 == 0)

/-- The number of days of a month. -/
def daysInMonth (year month : Nat) : Nat :=
  if month = 2 then if isLeapYear year then 29 else 28
  else if month = 4 ∨ month = 6 ∨ month = 9 ∨ month = 11 then 30
  else 31

/-- Whether three numbers name a day of the calendar. -/
def IsDay (year month day : Nat) : Prop :=
  1 ≤ year ∧ year ≤ 9999 ∧ 1 ≤ month ∧ month ≤ 12 ∧ 1 ≤ day ∧ day ≤ daysInMonth year month

instance (year month day : Nat) : Decidable (IsDay year month day) := by
  unfold IsDay; infer_instance

/-- A day of the calendar. -/
structure Date where
  year : Nat
  month : Nat
  day : Nat
  isDay : IsDay year month day
  deriving DecidableEq

namespace Date

/-- The day with these numbers, if there is one. -/
def of? (year month day : Nat) : Option Date :=
  if h : IsDay year month day then some ⟨year, month, day, h⟩ else none

/-- The day with these numbers; otherwise the first of them that is out of range. -/
def make (year month day : Int) : Except CalendarFault Date :=
  if year < 1 ∨ 9999 < year then .error (.year year)
  else if month < 1 ∨ 12 < month then .error .month
  else if day < 1 then .error .day
  else match of? year.toNat month.toNat day.toNat with
    | some date => .ok date
    | none => .error .day

/-- The following day; there is none after the last day of the year 9999. -/
def next? (date : Date) : Option Date :=
  if date.day < daysInMonth date.year date.month then of? date.year date.month (date.day + 1)
  else if date.month < 12 then of? date.year (date.month + 1) 1
  else of? (date.year + 1) 1 1

/-- The number of days from the first day of the year 1 up to and including this one. -/
def ordinal (date : Date) : Nat :=
  let past := date.year - 1
  past * 365 + past / 4 - past / 100 + past / 400 +
    (List.range (date.month - 1)).foldl (fun n m => n + daysInMonth date.year (m + 1)) 0 + date.day

/-- The day as `YYYY-MM-DD`, the year in four digits. -/
def iso (date : Date) : String :=
  String.ofList (paddedDigits 4 date.year ++ '-' :: paddedDigits 2 date.month ++
    '-' :: paddedDigits 2 date.day)

/-- The day as sent to the service: year, month and day, the year without leading zeros. -/
def wire (date : Date) : String :=
  String.ofList (natDigits date.year ++ '-' :: paddedDigits 2 date.month ++
    '-' :: paddedDigits 2 date.day)

/-- Building a day from numbers keeps the numbers. -/
theorem of?_eq_some {year month day : Nat} {date : Date} (h : of? year month day = some date) :
    date.year = year ∧ date.month = month ∧ date.day = day := by
  unfold of? at h
  split at h
  · cases h; exact ⟨rfl, rfl, rfl⟩
  · cases h

end Date

example : (Date.of? 2024 2 29).isSome = true := by decide
example : (Date.of? 2023 2 29).isSome = false := by decide
example : (Date.of? 1 1 1).map Date.wire = some "1-01-01" := by decide
example : (Date.of? 2024 1 1).map Date.ordinal = some 738886 := by decide

end NewsSearch.Calendar
