import NewsSearch.Calendar.Iso
import NewsSearch.Proofs.Text.Numeral
import NewsSearch.Proofs.Text.Whole

/-!
Days written out and read back.

`Spells` says when a text is the full writing of a day: four digits for the year, two for the month
and two for the day of the month, with hyphens between them.  The file answers two questions about
such texts.

1. **Which days are sent in full?**  The form in which days are sent does not fill up the year.  The
   month and the day of the month always have their two digits (`Date.two_digits`), so everything
   hangs on the number of digits of the year.  From the year 1000 on it is four
   (`length_natDigits_year`) and the form is the full writing (`spells_wire`).  Before that the form
   is shorter than ten characters (`length_wire_lt`), and it is no longer taken for a date
   (`isCalendarDate_wire_early`): where the last digit of the year is looked for there is a hyphen.
   That lemma goes through the years of no, one, two and three digits.

2. **How is the full writing read?**  As a complete date (`Spells.isCalendarDate_eq`) and as the
   midnight of its day (`Spells.momentIn?_eq`).  Both come from `Spells.leadingDate?_eq`, which is
   stated for any way of telling digits, because the first of the two takes digits of every script
   and the second only the ten of ASCII.

Readers of moments differ in what they take for a time, and programs are written for any of them.
What they need of a reader is `MomentReader.ReadsDays`, that it reads the full writing of a day as a
moment of that day.  The readers defined here do so whatever numbers they take, since no number is
read where no time stands.
-/

namespace NewsSearch.Calendar

open Number Text

/-! ## Digits filled up with zeros -/

section PaddedDigits

variable {width n : Nat}

/-- A numeral that is filled up has the width, if it was no longer before. -/
theorem length_paddedDigits (h : (natDigits n).length ≤ width) :
    (paddedDigits width n).length = width := by
  rw [paddedDigits, List.length_append, List.length_replicate]
  omega

/-- It has nothing but digits in it. -/
theorem isDigit_of_mem_paddedDigits {c : Char} (h : c ∈ paddedDigits width n) :
    c.isDigit = true := by
  rcases List.mem_append.mp h with hzero | hdigit
  · rw [(List.mem_replicate.mp hzero).2]
    rfl
  · exact Json.isDigit_of_mem_natDigits hdigit

/-- Zeros in front do not change the number. -/
theorem digitsNumber_paddedDigits : Json.digitsNumber (paddedDigits width n) = n := by
  have hzeros : Json.digitsNumber (List.replicate (width - (natDigits n).length) '0') = 0 := by
    show Nat.ofDigitChars 10 _ 0 = 0
    rw [Nat.ofDigitChars_replicate_zero, Nat.mul_zero]
  rw [paddedDigits, Json.digitsNumber, List.foldl_append]
  rw [Json.digitsNumber] at hzeros
  rw [hzeros]
  exact Json.digitsNumber_natDigits n

end PaddedDigits

/-- A number below a hundred has two digits at most, and so on for other powers of ten. -/
theorem length_natDigits_le {n width : Nat} (hwidth : 0 < width) (h : n < pow10 width) :
    (natDigits n).length ≤ width :=
  Json.length_natDigits_le_of_lt hwidth h

/-- From the year 1000 on a year has four digits. -/
theorem length_natDigits_year {n : Nat} (hlow : 1000 ≤ n) (hhigh : n ≤ 9999) :
    (natDigits n).length = 4 := by
  have hmost : (natDigits n).length ≤ 4 :=
    length_natDigits_le (by decide) (by show n < 10000; omega)
  have hleast : ¬ (natDigits n).length ≤ 3 := by
    intro hshort
    have hlt : n < pow10 3 := (Nat.length_toDigits_le_iff (by decide) (by decide)).mp hshort
    have hpower : pow10 3 = 1000 := rfl
    omega
  omega

/-! ## The full writing of a day -/

/-- The text is the day in the form `YYYY-MM-DD`: the year in four digits, the month and the day of
    the month in two each. -/
inductive Spells (s : String) (date : Date) : Prop
  | intro (year month day : List Char) (parts : s.toList = year ++ '-' :: month ++ '-' :: day)
      (lengths : year.length = 4 ∧ month.length = 2 ∧ day.length = 2)
      (digits : ∀ c ∈ year ++ month ++ day, c.isDigit = true)
      (numbers : Json.digitsNumber year = date.year ∧ Json.digitsNumber month = date.month ∧
        Json.digitsNumber day = date.day)

/-- The months and the days of a month have two digits at most. -/
theorem Date.two_digits (date : Date) :
    (natDigits date.month).length ≤ 2 ∧ (natDigits date.day).length ≤ 2 := by
  obtain ⟨-, -, -, hmonth, -, hday⟩ := date.isDay
  have hdays : daysInMonth date.year date.month ≤ 31 := by
    unfold daysInMonth
    split
    · split <;> omega
    · split <;> omega
  constructor
  · exact length_natDigits_le (by decide) (by show date.month < 100; omega)
  · exact length_natDigits_le (by decide) (by show date.day < 100; omega)

/-- The month and the day of the month are always written in two digits. -/
theorem Date.toList_wire (date : Date) :
    date.wire.toList = natDigits date.year ++ '-' :: paddedDigits 2 date.month ++
      '-' :: paddedDigits 2 date.day :=
  String.toList_ofList

/-- From the year 1000 on a day is sent in its full writing. -/
theorem spells_wire {date : Date} (h : 1000 ≤ date.year) : Spells date.wire date := by
  obtain ⟨hmonth, hday⟩ := date.two_digits
  have hyear : (natDigits date.year).length = 4 := length_natDigits_year h date.isDay.2.1
  refine .intro _ _ _ date.toList_wire
    ⟨hyear, length_paddedDigits hmonth, length_paddedDigits hday⟩ (fun c hc => ?_)
    ⟨Json.digitsNumber_natDigits _, digitsNumber_paddedDigits, digitsNumber_paddedDigits⟩
  rw [List.append_assoc] at hc
  rcases List.mem_append.mp hc with hc | hc
  · exact Json.isDigit_of_mem_natDigits hc
  · rcases List.mem_append.mp hc with hc | hc
    · exact isDigit_of_mem_paddedDigits hc
    · exact isDigit_of_mem_paddedDigits hc

/-- Before the year 1000 a day is sent in fewer than ten characters. -/
theorem length_wire_lt {date : Date} (h : date.year < 1000) : date.wire.toList.length < 10 := by
  obtain ⟨hmonth, hday⟩ := date.two_digits
  have hyear : (natDigits date.year).length ≤ 3 := length_natDigits_le (by decide) h
  simp only [date.toList_wire, List.length_append, List.length_cons, length_paddedDigits hmonth,
    length_paddedDigits hday]
  omega

theorem Spells.length_eq {s : String} {date : Date} (h : Spells s date) : s.toList.length = 10 := by
  obtain ⟨year, month, day, hs, ⟨hy, hm, hd⟩, -, -⟩ := h
  simp only [hs, List.length_append, List.length_cons, hy, hm, hd]

/-- The form in which a day is sent has digits, and strokes between them. -/
theorem digit_of_mem_wire {date : Date} {c : Char} (hc : c ∈ date.wire.toList) :
    c = '-' ∨ c.isDigit = true := by
  rw [date.toList_wire] at hc
  rcases List.mem_append.mp hc with hc | hc
  · rcases List.mem_append.mp hc with hc | hc
    · exact .inr (Json.isDigit_of_mem_natDigits hc)
    · exact (List.mem_cons.mp hc).imp_right isDigit_of_mem_paddedDigits
  · exact (List.mem_cons.mp hc).imp_right isDigit_of_mem_paddedDigits

/-- It has no blanks, so nothing is cut off it. -/
theorem strip_wire (date : Date) : strip date.wire = date.wire := by
  refine strip_eq_self (.of_forall fun c hc => ?_)
  rcases digit_of_mem_wire hc with rfl | hdigit
  · rfl
  · exact isBlank_of_isDigit (by rw [isDigit, isDecimal, digitValue?_of_isDigit hdigit]; rfl)

/-- It is a whole text. -/
theorem isWhole_wire (date : Date) : IsWhole date.wire := by
  refine isWhole_of_unmarked (List.all_eq_true.mpr fun c hc => bne_iff_ne.mpr ?_)
  rcases digit_of_mem_wire hc with rfl | hdigit
  · decide
  · rintro rfl
    exact absurd hdigit (by decide)

/-! ## Reading it back -/

/-- The full writing of a day is a leading date with nothing behind it, in whichever way its digits
    are told. -/
theorem Spells.leadingDate?_eq {digit? : Char → Option Nat}
    (hdigit : ∀ c : Char, c.isDigit = true → digit? c = some (c.toNat - 48)) {s : String}
    {date : Date} (h : Spells s date) :
    leadingDate? digit? s.toList = some (date.year, date.month, date.day, []) := by
  obtain ⟨year, month, day, hs, ⟨hy, hm, hd⟩, hdigits, hnumbers⟩ := h
  obtain ⟨a, b, c, d, rfl⟩ : ∃ a b c d, year = [a, b, c, d] :=
    ⟨_, _, _, _, List.eq_getElem_of_length_eq_four _ hy⟩
  obtain ⟨e, f, rfl⟩ : ∃ e f, month = [e, f] := ⟨_, _, List.eq_getElem_of_length_eq_two _ hm⟩
  obtain ⟨g, i, rfl⟩ : ∃ g i, day = [g, i] := ⟨_, _, List.eq_getElem_of_length_eq_two _ hd⟩
  have hread : ∀ x ∈ [a, b, c, d] ++ [e, f] ++ [g, i], digit? x = some (x.toNat - 48) :=
    fun x hx => hdigit x (hdigits x hx)
  simp only [List.cons_append, List.nil_append, List.forall_mem_cons] at hread
  obtain ⟨ha, hb, hc, hd, he, hf, hg, hi, -⟩ := hread
  obtain ⟨hyear, hmonth, hday⟩ := hnumbers
  simp only [← hyear, ← hmonth, ← hday, hs, List.cons_append, List.nil_append, leadingDate?,
    List.foldl_cons, List.foldl_nil, ha, hb, hc, hd, he, hf, hg, hi, Json.digitsNumber]
  rfl

/-- Building a day from its own numbers gives the day. -/
theorem Date.of?_self (date : Date) : Date.of? date.year date.month date.day = some date := by
  rw [Date.of?, dif_pos date.isDay]

/-- The full writing of a day is a complete date. -/
theorem Spells.isCalendarDate_eq {s : String} {date : Date} (h : Spells s date) :
    isCalendarDate s.toList = true := by
  rw [isCalendarDate, h.leadingDate?_eq fun c hc => digitValue?_of_isDigit hc]

/-- The full writing of a day names the midnight of that day.  Nothing stands behind the day, so it
    does not matter what is taken for a number in a time. -/
theorem Spells.momentIn?_eq {number? : List Char → Option Int} {s : String} {date : Date}
    (h : Spells s date) : momentIn? number? s = some ⟨date, .midnight, none⟩ := by
  have hleading : leadingDate? (fun c => if c.isDigit then some (c.toNat - 48) else none) s.toList =
      some (date.year, date.month, date.day, []) := h.leadingDate?_eq fun c hc => if_pos hc
  simp only [momentIn?, hleading, Option.bind_eq_bind, Option.bind_some, date.of?_self]

/-- Before the year 1000 a day that is sent is not taken for a complete date: a hyphen stands where
    the last digit of the year would be, or too little is left behind the year. -/
theorem isCalendarDate_wire_early {date : Date} (h : date.year < 1000) :
    isCalendarDate date.wire.toList = false := by
  obtain ⟨hmonth, hday⟩ := date.two_digits
  obtain ⟨e, f, hef⟩ : ∃ e f, paddedDigits 2 date.month = [e, f] :=
    ⟨_, _, List.eq_getElem_of_length_eq_two _ (length_paddedDigits hmonth)⟩
  obtain ⟨g, i, hgi⟩ : ∃ g i, paddedDigits 2 date.day = [g, i] :=
    ⟨_, _, List.eq_getElem_of_length_eq_two _ (length_paddedDigits hday)⟩
  have hyear : (natDigits date.year).length ≤ 3 := length_natDigits_le (by decide) h
  have hhyphen : digitValue? '-' = none := by decide
  rw [date.toList_wire, hef, hgi]
  match natDigits date.year, hyear with
  | [], _ => simp [isCalendarDate, leadingDate?]
  | [a], _ => simp [isCalendarDate, leadingDate?]
  | [a, b], _ => simp [isCalendarDate, leadingDate?, hhyphen]
  | [a, b, c], _ => simp [isCalendarDate, leadingDate?, hhyphen]

/-! ## Readers of days -/

namespace MomentReader

/-- The reader takes the full writing of a day for a moment of that day.  This is all that is ever
    asked of a reader: what it makes of a time behind the day is its own affair. -/
def ReadsDays [MomentReader] : Prop :=
  ∀ s date, Spells s date → ∃ m, readMoment? s = some m ∧ m.date = date

/-- The rule for the parts of a time is not asked about a day alone, so the strict reader reads days
    written in full. -/
theorem readsDays_strict : strict.ReadsDays :=
  fun _ _ hspells => ⟨_, hspells.momentIn?_eq, rfl⟩

/-- And so does the lenient one. -/
theorem readsDays_lenient : lenient.ReadsDays :=
  fun _ _ hspells => ⟨_, hspells.momentIn?_eq, rfl⟩

end MomentReader

end NewsSearch.Calendar
