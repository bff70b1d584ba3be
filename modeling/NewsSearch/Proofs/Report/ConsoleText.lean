import NewsSearch.Proofs.Json.Writing
import NewsSearch.Report.Console

/-!
Which outcomes can be shown.

The text for readers shows a few values of every item.  A service may put anything where it is asked
for a title or a day, and one thing in a value keeps a text from being made: an integer of more
digits than can be written out.  This file says which values of an item matter for that, apart from
the lines in which they stand (`shownValues`), and that nothing else decides whether an outcome can
be shown (`Showable`).

The text is made from lines that keep their values as they are, so there is one question to ask of a
line, whether one of its parts is too long (`Line.IsWritten`), and the argument follows the way in
which the lines are built.

1. A value may be replaced by a dash: everywhere when it counts as false, and in the title of an
   event also when it reads as the empty text.  Neither hides an integer that is too long.  Zero is
   the only integer that counts as false (`Data.isTooLong_of_not_truthy`), and no integer reads as
   the empty text (`Data.isTooLong_of_isEmpty`).
2. Thus the lines for one item can be written when the values that it shows can be, for articles
   (`articleLines_isWritten_iff`) and for events (`eventLines_isWritten_iff`).  The number of the
   item does not matter.
3. In an item of the shape of JSON the values that are shown have this shape as well, also the title
   that is chosen for an event.  There a value can be written when its integers are short.  Keys are
   texts and are always written (`linesFor_isWritten_iff`).
4. The lines for several items are those of each, with empty lines between them, by induction on the
   items (`itemLines_isWritten_iff`).

Main statement: `display_cases`.  An outcome is shown in full, or it is not showable and only its
heading is noted.
-/

namespace NewsSearch

/-- What counts as false has no integer in it but zero. -/
theorem Data.isTooLong_of_not_truthy {d : Data} (h : d.truthy = false) : d.isTooLong = false := by
  cases d with
  | scalar s =>
    cases s with
    | int n =>
      -- zero is short
      obtain rfl : n = 0 := by simpa [truthy, Scalar.truthy] using h
      rfl
    | tuple items =>
      obtain rfl : items = [] := by simpa [truthy, Scalar.truthy] using h
      rfl
    | _ => rfl
  | list items =>
    obtain rfl : items = [] := by simpa [truthy] using h
    rfl
  | tuple items =>
    obtain rfl : items = [] := by simpa [truthy] using h
    rfl
  | map entries =>
    obtain rfl : entries = [] := by simpa [truthy] using h
    rfl

/-- No integer reads as the empty text, and neither does anything that is put together. -/
theorem Data.isTooLong_of_isEmpty {d : Data} (h : d.plain.isEmpty = true) :
    d.isTooLong = false := by
  cases d with
  | scalar s =>
    cases s with
    | int n =>
      -- a numeral has at least one digit
      have hdigits : (Number.intText n).isEmpty = false := by
        unfold Number.intText Number.intDigits
        split <;> simp [Number.natDigits]
      simp [plain, Scalar.plain, Scalar.shown, hdigits] at h
    | tuple items =>
      simp only [plain, Scalar.plain, Scalar.shown, Scalar.parenthesized] at h
      split at h <;> simp at h
    | _ => rfl
  | list items => simp [plain, shown] at h
  | tuple items =>
    simp only [plain, shown, Scalar.parenthesized] at h
    split at h <;> simp at h
  | map entries => simp [plain, shown] at h

namespace Report

/-! ## Values that are shown -/

/-- The values of an item that are shown, dashes apart.  Whatever else the item holds, and whatever
    surrounds these values, stays out of the text. -/
def shownValues (subject : Subject) (item : Record) : List Data :=
  match subject with
  | .articles =>
    [item.getD "title", sourceTitle item, item.getD "date", item.getD "lang", item.getD "url"]
  | .events =>
    [eventTitle (item.getD "title"), item.getD "eventDate", item.getD "totalArticleCount",
      item.getD "uri"]

/-- **Showable**: the integers in the values that are shown of the items of an outcome are short.

    This is weaker than what saving the outcome asks for.  There the whole items are written, and
    the document of the search, and surrogates matter too. -/
def Showable (o : Outcome) : Prop :=
  ∀ item ∈ o.items, ∀ d ∈ shownValues o.search.search.subject item, d.IsShort

/-- The title of a source has the shape of JSON.  It is missing when the source is no object. -/
theorem shaped_sourceTitle {item : Record} (h : Json.Shaped (.map item)) :
    Json.Shaped (sourceTitle item) := by
  unfold sourceTitle
  split
  · next source hsource =>
    have hshaped := Json.shaped_of_getD h "source"
    rw [hsource] at hshaped
    exact Json.shaped_of_getD hshaped "title"
  · exact .null

/-- Also the title that is chosen from titles by language has the shape of JSON. -/
theorem shaped_eventTitle {title : Data} (h : Json.Shaped title) :
    Json.Shaped (eventTitle title) := by
  unfold eventTitle
  split
  · exact .text _
  · next key first rest =>
    simp only []
    split
    · exact Json.shaped_of_getD h "eng"
    · cases h with
      | map _ each => exact each (key, first) List.mem_cons_self
  · split
    · exact h
    · exact .text _

/-- The values that are shown have the shape of JSON when the item has. -/
theorem shaped_of_mem_shownValues {subject : Subject} {item : Record}
    (h : Json.Shaped (.map item)) : ∀ d ∈ shownValues subject item, Json.Shaped d := by
  cases subject with
  | articles =>
    simp only [shownValues, List.forall_mem_cons]
    exact ⟨Json.shaped_of_getD h _, shaped_sourceTitle h, Json.shaped_of_getD h _,
      Json.shaped_of_getD h _, Json.shaped_of_getD h _, fun d hd => absurd hd List.not_mem_nil⟩
  | events =>
    simp only [shownValues, List.forall_mem_cons]
    exact ⟨shaped_eventTitle (Json.shaped_of_getD h _), Json.shaped_of_getD h _,
      Json.shaped_of_getD h _, Json.shaped_of_getD h _, fun d hd => absurd hd List.not_mem_nil⟩

/-! ## Lines -/

/-- Every part of the line can be written out. -/
def Line.IsWritten (line : Line) : Prop := line.any Part.isTooLong = false

/-- An empty line can be written. -/
@[simp] theorem Line.isWritten_nil : Line.IsWritten [] := rfl

/-- Words can always be written, so what is asked of a line is asked of its values. -/
@[simp] theorem Line.isWritten_words_cons {s : String} {line : Line} :
    Line.IsWritten (.words s :: line) ↔ line.IsWritten := by
  simp [Line.IsWritten, Part.isTooLong]

/-- A value can be written when it has no integer that is too long. -/
@[simp] theorem Line.isWritten_value_cons {d : Data} {line : Line} :
    Line.IsWritten (.value d :: line) ↔ d.isTooLong = false ∧ line.IsWritten := by
  simp [Line.IsWritten, Part.isTooLong]

/-- A dash hides nothing that could not be written out. -/
@[simp] theorem isTooLong_orDash (d : Data) : (orDash d).isTooLong = d.isTooLong := by
  unfold orDash
  split
  · rfl
  · next hfalse =>
    have hshort := Data.isTooLong_of_not_truthy (d := d) (by simpa using hfalse)
    rw [hshort]
    rfl

/-- The lines for an article can be written when the values that it shows can.  Its address has a
    line of its own, which is left out when there is none. -/
theorem articleLines_isWritten_iff {index : Nat} {item : Record} :
    (∀ line ∈ articleLines index item, line.IsWritten) ↔
      ∀ d ∈ shownValues .articles item, d.isTooLong = false := by
  -- an address that is not shown counts as false
  have haddress : (∀ line ∈ if (item.getD "url").truthy then
        [[Part.words "   URL: ", .value (item.getD "url")]] else [], Line.IsWritten line) ↔
      (item.getD "url").isTooLong = false := by
    split
    · simp
    · next hfalse =>
      exact iff_of_true (fun line h => absurd h List.not_mem_nil)
        (Data.isTooLong_of_not_truthy (by simpa using hfalse))
  rw [articleLines, List.forall_mem_append, haddress]
  simp [shownValues, and_assoc]

/-- So can those for an event, whose values have a dash in their place when they are missing. -/
theorem eventLines_isWritten_iff {index : Nat} {item : Record} :
    (∀ line ∈ eventLines index item, line.IsWritten) ↔
      ∀ d ∈ shownValues .events item, d.isTooLong = false := by
  -- the title is made a text before it is judged, and what reads as nothing hides nothing
  have htitle (d : Data) :
      (if d.plain = "" then Data.text dash else d).isTooLong = d.isTooLong := by
    split
    · next hempty =>
      exact (Data.isTooLong_of_isEmpty (d := d) (by simpa using hempty)).symm
    · rfl
  -- without a count there is a dash, and the value that is missing is null
  have hcount : ((item.get? "totalArticleCount").getD (.text dash)).isTooLong =
      (item.getD "totalArticleCount").isTooLong := by
    rw [Record.getD]
    cases item.get? "totalArticleCount" <;> rfl
  simp [eventLines, shownValues, htitle, hcount, and_assoc]

/-- The lines for an item of the shape of JSON can be written when the integers in the values that
    it shows are short. -/
theorem linesFor_isWritten_iff {subject : Subject} {index : Nat} {item : Record}
    (h : Json.Shaped (.map item)) :
    (∀ line ∈ linesFor subject index item, line.IsWritten) ↔
      ∀ d ∈ shownValues subject item, d.IsShort := by
  have hlines : (∀ line ∈ linesFor subject index item, line.IsWritten) ↔
      ∀ d ∈ shownValues subject item, d.isTooLong = false := by
    cases subject with
    | articles => exact articleLines_isWritten_iff
    | events => exact eventLines_isWritten_iff
  rw [hlines]
  exact forall₂_congr fun d hd => Data.isTooLong_eq_false_iff (shaped_of_mem_shownValues h d hd)

/-- So can the lines for several items when those for each of them can. -/
theorem itemLines_isWritten_iff {subject : Subject} (index : Nat) {items : List Record}
    (h : ∀ item ∈ items, Json.Shaped (.map item)) :
    (∀ line ∈ itemLines subject index items, line.IsWritten) ↔
      ∀ item ∈ items, ∀ d ∈ shownValues subject item, d.IsShort := by
  induction items generalizing index with
  | nil => simp [itemLines]
  | cons item rest ih =>
    obtain ⟨hitem, hrest⟩ := List.forall_mem_cons.mp h
    rw [itemLines, List.forall_mem_append, List.forall_mem_cons, linesFor_isWritten_iff hitem,
      ih _ hrest, List.forall_mem_cons]
    simp

/-! ## Outcomes -/

/-- The text for items of the shape of JSON is made when the integers in the values that they show
    are short; otherwise an integer is to blame. -/
theorem render_cases (subject : Subject) {items : List Record}
    (h : ∀ item ∈ items, Json.Shaped (.map item)) :
    ((∀ item ∈ items, ∀ d ∈ shownValues subject item, d.IsShort) ∧
      render subject items = .ok (text subject items)) ∨
    ((¬ ∀ item ∈ items, ∀ d ∈ shownValues subject item, d.IsShort) ∧
      render subject items = .error (.type (.json .integer))) := by
  have hwritten : (itemLines subject 1 items).any (·.any Part.isTooLong) = false ↔
      ∀ item ∈ items, ∀ d ∈ shownValues subject item, d.IsShort := by
    rw [← itemLines_isWritten_iff 1 h]
    simp [Line.IsWritten]
  rw [← hwritten, render]
  cases (itemLines subject 1 items).any (·.any Part.isTooLong) with
  | false => exact Or.inl ⟨rfl, rfl⟩
  | true => exact Or.inr ⟨nofun, rfl⟩

/-- **Showing an outcome with JSON items.**  When it is showable it is shown in full, its heading
    and a note for each line of the text of its items.  When it is not, the heading has been noted
    and an integer ends the showing. -/
theorem display_cases {o : Outcome} (h : ∀ item ∈ o.items, Json.Shaped (.map item)) :
    (Showable o ∧ (display o).fault = none) ∨
    (¬ Showable o ∧ display o = ⟨headingNotes o, some (.type (.json .integer))⟩) := by
  by_cases hempty : o.items = []
  · refine Or.inl ⟨?_, ?_⟩
    · simp [Showable, hempty]
    · simp [display, itemNotes, hempty]
  -- without items there is no text, so from here on there is one to be made
  have hitems : o.items.isEmpty = false := by simpa using hempty
  have hnotes : itemNotes o = (render o.search.search.subject o.items).map fun text =>
      (Text.lines text).map (Note.main .info) := by
    simp [itemNotes, hitems]
  rcases render_cases o.search.search.subject h with ⟨hshort, hmade⟩ | ⟨hlong, hmade⟩
  · exact Or.inl ⟨hshort, by rw [display, hnotes, hmade]; rfl⟩
  · exact Or.inr ⟨hlong, by rw [display, hnotes, hmade]; rfl⟩

end Report

end NewsSearch
