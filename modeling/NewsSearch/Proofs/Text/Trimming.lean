import NewsSearch.Text.Blank

/-!
What trimming leaves.

A trimmed text has no blank at either end (`trimmed_trim`), and only such a text is left as it is
(`trim_eq_self`), so that trimming twice is trimming once (`strip_strip`).  A text without any blank
is trimmed already (`Trimmed.of_forall`).

Trimming cuts off blanks in front and then behind.  The second cut must not uncover the first end: a
character in front that is not blank stays, whatever is cut off behind it (`trimEnd_cons`).
-/

namespace NewsSearch.Text

/-- There is no blank at either end. -/
structure Trimmed (cs : List Char) : Prop where
  head : ∀ c, cs.head? = some c → isBlank c = false
  last : ∀ c, cs.getLast? = some c → isBlank c = false

/-- Where there is no blank at all, there is none at the ends. -/
theorem Trimmed.of_forall {cs : List Char} (h : ∀ c ∈ cs, isBlank c = false) : Trimmed cs where
  head := fun c hc => h c (List.mem_of_mem_head? hc)
  last := fun c hc => h c (List.mem_of_mem_getLast? hc)

/-- A character in front that is not blank stays, whatever is cut off behind it. -/
theorem trimEnd_cons {c : Char} {cs : List Char} (hc : isBlank c = false) :
    trimEnd (c :: cs) = c :: trimEnd cs := by
  have hkept : [c].dropWhile isBlank = [c] := by simp [List.dropWhile, hc]
  have hdrop : (cs.reverse ++ [c]).dropWhile isBlank = cs.reverse.dropWhile isBlank ++ [c] := by
    rw [List.dropWhile_append]
    split
    · next hempty => rw [hkept, List.isEmpty_iff.mp hempty, List.nil_append]
    · rfl
  rw [trimEnd, trimEnd, List.reverse_cons, hdrop, List.reverse_append]
  rfl

/-- Trimming leaves no blank at either end. -/
theorem trimmed_trim (cs : List Char) : Trimmed (trim cs) := by
  refine ⟨fun c hc => ?_, fun c hc => ?_⟩
  · cases hds : cs.dropWhile isBlank with
    | nil =>
      rw [trim, hds] at hc
      cases hc
    | cons d ds =>
      have hd : isBlank d = false := head?_dropWhile_isBlank (by rw [hds]; rfl)
      rw [trim, hds, trimEnd_cons hd] at hc
      cases hc
      exact hd
  · rw [trim, trimEnd, List.getLast?_reverse] at hc
    exact head?_dropWhile_isBlank hc

/-- What has no blank at either end is left as it is. -/
theorem trim_eq_self {cs : List Char} (h : Trimmed cs) : trim cs = cs := by
  have hhead : cs.dropWhile isBlank = cs := dropWhile_isBlank_eq_self h.head
  have hlast : cs.reverse.dropWhile isBlank = cs.reverse :=
    dropWhile_isBlank_eq_self fun c hc => h.last c (by rwa [List.head?_reverse] at hc)
  rw [trim, hhead, trimEnd, hlast, List.reverse_reverse]

/-- Trimming twice is trimming once. -/
theorem trim_trim (cs : List Char) : trim (trim cs) = trim cs :=
  trim_eq_self (trimmed_trim cs)

/-- The characters of a trimmed text are the trimmed characters. -/
@[simp] theorem toList_strip (s : String) : (strip s).toList = trim s.toList :=
  String.toList_ofList

/-- The same for texts. -/
theorem strip_strip (s : String) : strip (strip s) = strip s := by
  rw [strip, toList_strip, trim_trim]
  rfl

/-- A trimmed text is left as it is. -/
theorem strip_eq_self {s : String} (h : Trimmed s.toList) : strip s = s := by
  rw [strip, trim_eq_self h, String.ofList_toList]

end NewsSearch.Text
