import NewsSearch.Proofs.Calendar.WrittenDay
import NewsSearch.Proofs.Query.CheckedCondition
import NewsSearch.Proofs.Query.Vocabulary

/-!
Conditions checked again.

What a condition holds is the value as it is sent to the service: a token or a URI without blanks
around it, a count that is not negative, a day as `YYYY-MM-DD`.  `Field.WireForm` says so, together
with how the value comes from what was given.  Made again from what it holds, a condition should be
the same condition, and this file shows how far that is true.

The argument has one step for each of the two checks that making a condition consists of.

1. **The value.**  What the vocabulary sends for a value is in its wire form, but for the early days
   (`Field.Sends.wireForm_or_earlyDay`), and a value in its wire form passes the check of its field
   as it is (`Field.WireForm.normalizeValue_eq`).  A stripped text has nothing left to strip and a
   count is its own wire form.  For a day the check reads the text once more, and it is here that
   the reader of moments comes in.  All that is asked of it is `MomentReader.ReadsDays`: the text to
   be read is the full writing of a day, never the text that was given at first, so no reader has to
   agree with another on times, zones or fractions of a second.

2. **The modifiers.**  All of those that are accepted have the one name that the field allows, so
   putting them in the order of their names leaves them where they are, and they are accepted again
   (`Condition.givenModifiers_of_make`).

There is one exception to the first step, and it is exact.  The year of a day is not filled up with
zeros, so a day before the year 1000 is held in fewer than ten characters (`Field.EarlyDay`), and
making the condition again refuses that text (`Field.EarlyDay.normalizeValue_eq`).

Main statement: `Condition.made_again`.
-/

namespace NewsSearch

open Calendar Text

/-- A scalar names a day of the calendar: it is the day, a moment of it, or a text that is read as a
    moment of it. -/
inductive Names [MomentReader] : Scalar → Date → Prop
  | date (d : Date) : Names (.date d) d
  | moment (m : Moment) : Names (.moment m) m.date
  | text {s : String} {m : Moment} (full : isCalendarDate (strip s).toList = true)
      (reads : readMoment? (strip s) = some m) : Names (.text s) m.date

theorem NamesDay.exists_date [MomentReader] {s : Scalar} {day : String} (h : NamesDay s day) :
    ∃ date, Names s date ∧ day = date.wire := by
  cases h with
  | text full reads => exact ⟨_, .text full reads, rfl⟩
  | date d => exact ⟨d, .date d, rfl⟩
  | moment m => exact ⟨m.date, .moment m, rfl⟩

/-- A value is held for a field in the form in which it is sent. -/
inductive Field.WireForm [MomentReader] (f : Field) : Scalar → Data → Prop
  /-- A token or a URI is not empty and has no blanks at its ends. -/
  | text {s t : String} (kind : f.kind = .token ∨ f.kind = .uri) (stripped : t = strip s)
      (filled : t ≠ "") (trimmed : Trimmed t.toList) : f.WireForm (.text s) (.text t)
  | count {n : Int} (kind : f.kind = .count) (natural : 0 ≤ n) : f.WireForm (.int n) (.int n)
  /-- A date has ten characters and spells the day that was named. -/
  | day {s : Scalar} {date : Date} (kind : f.kind = .date) (names : Names s date)
      (ten : date.wire.toList.length = 10) (spells : Spells date.wire date) :
      f.WireForm s (.text date.wire)

/-- A day is held for a field in the short form of the years before 1000. -/
inductive Field.EarlyDay [MomentReader] (f : Field) (s : Scalar) : String → Prop
  | intro {date : Date} (kind : f.kind = .date) (names : Names s date)
      (early : date.year < 1000) (short : date.wire.toList.length < 10) : EarlyDay f s date.wire

namespace Field

variable {f : Field} {s : Scalar} {v : Data}

/-- What is sent for a field is in its wire form, but for the early days. -/
theorem Sends.wireForm_or_earlyDay [MomentReader] (h : f.Sends s v) :
    f.WireForm s v ∨ ∃ t, v = .text t ∧ f.EarlyDay s t := by
  cases h with
  | @text s hkind hrest =>
    have htrimmed : Trimmed (strip s).toList := by
      rw [toList_strip]
      exact trimmed_trim _
    exact .inl (.text hkind rfl hrest htrimmed)
  | count hkind hnatural => exact .inl (.count hkind hnatural)
  | date hkind hday =>
    obtain ⟨date, hnames, rfl⟩ := hday.exists_date
    by_cases hyear : date.year < 1000
    · exact .inr ⟨_, rfl, .intro hkind hnames hyear (length_wire_lt hyear)⟩
    · have hspells : Spells date.wire date := spells_wire (by omega)
      exact .inl (.day hkind hnames hspells.length_eq hspells)

/-- A value in its wire form passes the check of its field as it is.  For texts and counts this is
    so by what the form says; for a day the reader has to take the full writing for that day. -/
theorem WireForm.normalizeValue_eq [MomentReader] (hreader : MomentReader.ReadsDays)
    (h : f.WireForm s v) : f.normalizeValue (.data v) = .ok v := by
  cases h with
  | @text s t hkind hstripped hfilled htrimmed =>
    have hsends : f.Sends (.text t) (.text (strip t)) :=
      .text hkind (by rwa [strip_eq_self htrimmed])
    rw [strip_eq_self htrimmed] at hsends
    exact normalizeValue_eq_ok_iff.mpr ⟨_, rfl, hsends⟩
  | count hkind hnatural => exact normalizeValue_eq_ok_iff.mpr ⟨_, rfl, .count hkind hnatural⟩
  | @day s date hkind hnames hten hspells =>
    -- the text is read as a moment of the day, which is sent as the same text
    obtain ⟨m, hreads, rfl⟩ := hreader _ _ hspells
    have hday : NamesDay (.text m.date.wire) m.date.wire := by
      refine .text ?_ ?_
      · rw [strip_wire]; exact hspells.isCalendarDate_eq
      · rw [strip_wire]; exact hreads
    exact normalizeValue_eq_ok_iff.mpr ⟨_, rfl, .date hkind hday⟩

/-- The short form of an early day is refused, as no full calendar date. -/
theorem EarlyDay.normalizeValue_eq [MomentReader] {t : String} (h : f.EarlyDay s t) :
    f.normalizeValue (.data (.text t)) = .error (.date (.notCalendarDate t)) := by
  cases h with
  | @intro date hkind hnames hearly hshort =>
    have hfilled : date.wire.isEmpty = false := by
      have hne : date.wire ≠ "" := by
        intro hempty
        have hlist := congrArg String.toList hempty
        rw [date.toList_wire] at hlist
        simp at hlist
      simpa using hne
    simp only [normalizeValue, hkind, dateText, strip_wire, hfilled,
      isCalendarDate_wire_early hearly, Bool.false_eq_true, if_false]
    rfl

end Field

namespace Condition

/-- The modifiers of a condition are those that were given for it, and they are accepted again. -/
theorem givenModifiers_of_make [MomentReader] {f : Field} {a : Argument}
    {given : List (String × Argument)} {c : Condition} (h : make f a given = .ok c) :
    c.givenModifiers = given ∧ f.checkModifiers c.givenModifiers = .ok c.modifiers ∧
      sortedByName c.modifiers = c.modifiers := by
  obtain ⟨-, -, checked, hchecked, hsorted⟩ := make_eq_ok_iff.mp h
  obtain ⟨hgiven, hnames⟩ := Field.checkModifiers_ok hchecked
  have hsame : sortedByName checked = checked :=
    sortedByName_of_same fun m hm n hn => Option.some.inj ((hnames m hm).symm.trans (hnames n hn))
  have hkept : c.modifiers = checked := hsorted.trans hsame
  refine ⟨?_, ?_, ?_⟩
  · rw [givenModifiers, hkept, hgiven]
  · rw [givenModifiers, hkept, ← hgiven, hchecked]
  · rw [hkept, hsame]

/-- **Conditions made again.**  With any reader that reads the days written in full, a condition on
    a field of the vocabulary keeps the modifiers it was given and holds one value.  Either the
    value is in its wire form, and made again from its own parts the condition is the same; or it is
    a day before the year 1000, and its text is refused when the condition is made again. -/
theorem made_again [MomentReader] (hreader : MomentReader.ReadsDays) {f : Field}
    (hf : f ∈ Field.vocabulary) {a : Argument} {given : List (String × Argument)} {c : Condition}
    (h : make f a given = .ok c) :
    Field.ofKey? c.field = some f ∧ c.givenModifiers = given ∧
      ∃ s, a = .data (.scalar s) ∧
        (f.WireForm s c.value ∧ make f (.data c.value) c.givenModifiers = .ok c ∨
          ∃ t, c.value = .text t ∧ f.EarlyDay s t ∧
            make f (.data c.value) c.givenModifiers = .error (.date (.notCalendarDate t))) := by
  obtain ⟨hfield, hvalue, -⟩ := make_eq_ok_iff.mp h
  obtain ⟨hgiven, hmodifiers, hsorted⟩ := givenModifiers_of_make h
  obtain ⟨s, rfl, hsends⟩ := Field.normalizeValue_eq_ok_iff.mp hvalue
  refine ⟨by rw [hfield, Field.ofKey?_key f hf], hgiven, s, rfl, ?_⟩
  rcases hsends.wireForm_or_earlyDay with hwire | ⟨t, ht, hearly⟩
  · refine .inl ⟨hwire, make_eq_ok_iff.mpr ⟨hfield, hwire.normalizeValue_eq hreader, ?_⟩⟩
    exact ⟨c.modifiers, hmodifiers, hsorted.symm⟩
  · refine .inr ⟨t, ht, hearly, ?_⟩
    rw [make, hmodifiers, ht, hearly.normalizeValue_eq]
    rfl

/-- Without modifiers a condition is made of its value alone. -/
theorem make_plain [MomentReader] {f : Field} {a : Argument} {v : Data}
    (h : f.normalizeValue a = .ok v) :
    make f a [] = .ok ⟨f.key, v, []⟩ := by
  have hnone : sortedByName [] = [] := sortedByName_of_same fun m hm => absurd hm List.not_mem_nil
  exact make_eq_ok_iff.mpr ⟨rfl, h, [], rfl, hnone.symm⟩

/-- The field of the last day that is searched. -/
def lastDay : Field := .single "dateEnd" "date_end" .date

/-- Twenty-four o'clock on the last day of a year is held as a day of the following year, which is
    made again. -/
theorem made_again_midnight :
    lastDay ∈ Field.vocabulary ∧
      make lastDay (.data (.text " 2024-12-31T24:00")) [] =
        .ok ⟨"dateEnd", .text "2025-01-01", []⟩ ∧
      lastDay.WireForm (.text " 2024-12-31T24:00") (.text "2025-01-01") ∧
      make lastDay (.data (.text "2025-01-01")) [] = .ok ⟨"dateEnd", .text "2025-01-01", []⟩ := by
  have hknown : lastDay ∈ Field.vocabulary := by decide
  have hmake : make lastDay (.data (.text " 2024-12-31T24:00")) [] =
      .ok ⟨"dateEnd", .text "2025-01-01", []⟩ := make_plain (by rfl)
  obtain ⟨-, -, s, hs, hends⟩ := made_again MomentReader.readsDays_strict hknown hmake
  cases hs
  rcases hends with ⟨hwire, hagain⟩ | ⟨t, ht, -, hagain⟩
  · exact ⟨hknown, hmake, hwire, hagain⟩
  · -- the text is accepted, so this is no early day
    have haccepted : make lastDay (.data (.text "2025-01-01")) [] =
        .ok ⟨"dateEnd", .text "2025-01-01", []⟩ := make_plain (by rfl)
    exact absurd (haccepted.symm.trans hagain) (by simp)

/-- A reader that does not insist on two digits takes more texts, and what is held is in the wire
    form all the same. -/
example : @make .lenient lastDay (.data (.text "2024-12-31T24:0")) [] =
    .ok ⟨"dateEnd", .text "2025-01-01", []⟩ :=
  @make_plain .lenient _ _ _ rfl

/-- The last day of the year 999 is held in nine characters, and they are refused. -/
theorem exists_not_made_again :
    lastDay ∈ Field.vocabulary ∧ ∃ a c t, make lastDay a [] = .ok c ∧ c.value = .text t ∧
      t.toList.length ≠ 10 ∧ ∀ c', make lastDay (.data c.value) c.givenModifiers ≠ .ok c' := by
  have hrefused : lastDay.normalizeValue (.data (.text "999-12-31")) =
      .error (.date (.notCalendarDate "999-12-31")) := rfl
  refine ⟨by decide, .data (.text "0999-12-31"), ⟨"dateEnd", .text "999-12-31", []⟩, "999-12-31",
    make_plain rfl, rfl, by decide, fun c' hagain => ?_⟩
  obtain ⟨-, haccepted, -⟩ := make_eq_ok_iff.mp hagain
  exact absurd (hrefused.symm.trans haccepted) (by simp)

end Condition

end NewsSearch
