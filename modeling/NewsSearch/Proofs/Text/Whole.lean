import NewsSearch.Proofs.Json.Token
import NewsSearch.Proofs.Text.Trimming

/-!
Whole texts.

A whole text is written from characters, each of which stands for itself; only the mark stands
twice.  So a text without the mark is whole (`isWhole_of_unmarked`).

Whether a text is whole can be decided: it must be written from the characters that are found in it
(`isWhole_iff`).

What is left of a whole text when it is trimmed is whole again.  The mark is no blank, so the blanks
in front of what is written are those in front of its characters (`dropWhile_written`); written
backwards the characters are the same, each of them for itself (`ofCodePoints_reverse`); and so
trimming the text is trimming its characters (`trim_written`).

Main statement: `IsWhole.strip`.
-/

namespace NewsSearch.Text

/-- The characters of a text that is written from them are found again. -/
theorem toCharacters_textOf (cs : List Char) :
    toCharacters (textOf (cs.map .char)) = String.ofList cs := by
  rw [toCharacters, Json.codePoints_textOf, List.filterMap_map]
  exact congrArg String.ofList List.filterMap_some

/-- A whole text is written from the characters that are found in it. -/
theorem isWhole_iff {s : String} : IsWhole s ↔ ofCharacters (toCharacters s) = s := by
  constructor
  · rintro ⟨cs, rfl⟩
    rw [toCharacters_textOf, ofCharacters, String.toList_ofList]
  · exact fun h => ⟨(toCharacters s).toList, h.symm⟩

/-- Without the mark every character is written by itself. -/
theorem isWhole_of_unmarked {s : String} (h : s.toList.all (· != surrogateMark) = true) :
    IsWhole s := by
  refine ⟨s.toList, ?_⟩
  have hwritten : ofCodePoints (s.toList.map .char) = s.toList := by
    rw [ofCodePoints, List.flatMap_map]
    rw [List.all_eq_true] at h
    generalize s.toList = cs at h
    induction cs with
    | nil => rfl
    | cons c rest ih =>
      obtain ⟨hfirst, hrest⟩ := List.forall_mem_cons.mp h
      rw [List.flatMap_cons, ih hrest, CodePoint.written, if_neg (by simpa using hfirst)]
      rfl
  rw [textOf, hwritten, String.ofList_toList]

-- hardly any text has the mark, and without it nothing has to be written and compared
instance : DecidablePred IsWhole := fun s =>
  if h : s.toList.all (· != surrogateMark) = true then isTrue (isWhole_of_unmarked h)
  else decidable_of_iff _ isWhole_iff.symm

/-! ## Trimming

Blanks are cut off in front, and then in front of the text from behind. -/

/-- A blank is written by itself. -/
theorem written_blank {c : Char} (h : isBlank c = true) : (CodePoint.char c).written = [c] := by
  have hne : c ≠ surrogateMark := by
    rintro rfl
    exact absurd h (by decide)
  rw [CodePoint.written, if_neg hne]

/-- However often a character is written, it comes first. -/
theorem head?_written (c : Char) (rest : List Char) :
    ((CodePoint.char c).written ++ rest).head? = some c := by
  rw [CodePoint.written]
  split
  · next hmark => rw [hmark]; rfl
  · rfl

/-- What is written for a character is the same from behind. -/
theorem reverse_written (c : Char) :
    (CodePoint.char c).written.reverse = (CodePoint.char c).written := by
  rw [CodePoint.written]
  split <;> rfl

variable (cs : List Char)

/-- The blanks in front of what is written are those in front of its characters. -/
theorem dropWhile_written : (ofCodePoints (cs.map .char)).dropWhile isBlank =
    ofCodePoints ((cs.dropWhile isBlank).map .char) := by
  induction cs with
  | nil => rfl
  | cons c rest ih =>
    rw [ofCodePoints, List.map_cons, List.flatMap_cons]
    cases hblank : isBlank c with
    | true =>
      rw [written_blank hblank, List.singleton_append, List.dropWhile_cons_of_pos hblank,
        List.dropWhile_cons_of_pos hblank]
      exact ih
    | false =>
      have hkept : (c :: rest).dropWhile isBlank = c :: rest :=
        List.dropWhile_cons_of_neg (by simp [hblank])
      rw [hkept, dropWhile_isBlank_eq_self]
      · rfl
      · intro d hd
        rw [head?_written] at hd
        cases hd
        exact hblank

/-- Backwards, the characters are written backwards. -/
theorem ofCodePoints_reverse :
    (ofCodePoints (cs.map .char)).reverse = ofCodePoints (cs.reverse.map .char) := by
  have hsame : (List.reverse ∘ fun c => (CodePoint.char c).written) =
      fun c => (CodePoint.char c).written := funext reverse_written
  rw [ofCodePoints, ofCodePoints, List.flatMap_map, List.flatMap_map, List.reverse_flatMap, hsame]

/-- Trimming what is written is trimming its characters. -/
theorem trim_written :
    trim (ofCodePoints (cs.map .char)) = ofCodePoints ((trim cs).map .char) := by
  rw [trim, trimEnd, dropWhile_written, ofCodePoints_reverse, dropWhile_written,
    ofCodePoints_reverse]
  rfl

/-- **What trimming leaves of a whole text is whole.** -/
theorem IsWhole.strip {s : String} (h : IsWhole s) : IsWhole (strip s) := by
  obtain ⟨cs, rfl⟩ := h
  refine ⟨trim cs, ?_⟩
  rw [Text.strip, textOf, String.toList_ofList, trim_written]
  rfl

end NewsSearch.Text
