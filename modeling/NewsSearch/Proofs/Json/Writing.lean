import NewsSearch.Data.Wording
import NewsSearch.Proofs.Json.Reading
import NewsSearch.Proofs.Json.RoundTrip
import NewsSearch.Proofs.Text.Whole
import NewsSearch.Text.Surrogate

/-!
What can be written as JSON text.

There are two steps from a value to a file.  The value is written as text, and the text is put into
bytes.  Each step can fail for one reason only, and this file says for which values it does.

1. A value of the shape of JSON has no days and no odd keys.  So only one thing can keep it from
   being written: an integer of too many digits (`fault?_eq_none_iff`).  The same is true of putting
   it into words (`Data.isTooLong_eq_false_iff`).
2. The text that is written may still have no form in bytes.  The layout, the words and the numerals
   are ASCII, and surrogates are written as they are in files, so the text has a form in bytes
   exactly when all texts in the value do (`encodingFault?_file_iff`).

The first is an induction on the shape.  The second needs some care, for in the model a surrogate is
a character with a mark before it, and one cannot tell from a single character whether it belongs to
a surrogate.  It is carried by `Writes`: some characters write a row of code points, and no
surrogate is among them just in case a condition holds.  Characters one after the other write rows
one after the other, so the conditions of the parts add up (`Writes.append`, `Writes.flatMap`).
Then each piece of a text is looked at once:

* what has no mark in it writes itself and has no surrogates (`Writes.unmarked`), which covers
  brackets, blanks, words, numerals (`intDigits_unmarked`, `floatChars_unmarked`) and escapes;
* a text in its quotes has surrogates when the text has (`writes_textChars`);
* a list or an object has surrogates when one of its parts has, by induction (`writes_chars`).

A value with a JSON form of its own, where all texts are whole, has no surrogates at all
(`IsJson.isEncodable`).
-/

namespace NewsSearch

open Text Number

/-! ## Integers -/

/-- A scalar that is no integer of too many digits. -/
def Scalar.IsShort (s : Scalar) : Prop := ∀ n, s = .int n → n.natAbs < pow10 digitLimit

/-- An integer is short when its digits are no more than the limit. -/
theorem Scalar.isShort_int_iff {n : Int} :
    Scalar.IsShort (.int n) ↔ n.natAbs < pow10 digitLimit :=
  ⟨fun h => h n rfl, fun h m heq => by cases heq; exact h⟩

/-- The integers within a value are short; keys do not matter. -/
abbrev Data.IsShort (d : Data) : Prop := d.Every (fun _ => True) Scalar.IsShort

/-- A scalar that is no text with a surrogate. -/
def Scalar.IsEncodable (s : Scalar) : Prop := ∀ t, s = .text t → encodingFault? t = none

/-- The keys and the texts within a value have no surrogates. -/
abbrev Data.IsEncodable (d : Data) : Prop := d.Every Scalar.IsEncodable Scalar.IsEncodable

/-- A value of the shape of JSON can be put into words when its integers are short. -/
theorem Data.isTooLong_eq_false_iff {d : Data} (h : Json.Shaped d) :
    d.isTooLong = false ↔ d.IsShort := by
  induction h with
  | int n =>
    -- an integer is in words just when it is no longer than the limit
    rw [IsShort, every_scalar_iff, Scalar.isShort_int_iff, ← Json.isTooLong_eq_false_iff]
    rfl
  | list each ih =>
    rw [isTooLong, anyTooLong_eq_false_iff, IsShort, every_list_iff]
    exact forall₂_congr ih
  | map keys each ih =>
    rw [isTooLong, anyEntryTooLong_eq_false_iff, IsShort, every_map_iff]
    refine forall₂_congr fun e he => ?_
    -- keys are texts, and never too long
    obtain ⟨name, hname⟩ := keys e he
    rw [hname, ih e he]
    exact and_congr_left' (iff_true_intro rfl)
  | _ => simp [isTooLong, Scalar.isTooLong, Scalar.IsShort]

namespace Json

/-- A value of the shape of JSON can be written when its integers are short. -/
theorem fault?_eq_none_iff {lenient : Bool} {d : Data} (h : Shaped d) :
    fault? lenient d = none ↔ d.IsShort := by
  induction h with
  | int n =>
    rw [Data.IsShort, Data.every_scalar_iff, Scalar.isShort_int_iff, ← isTooLong_eq_false_iff]
    simp [fault?, scalarFault?]
  | list each ih =>
    rw [fault?, faultInItems?_eq_none_iff, Data.IsShort, Data.every_list_iff]
    exact forall₂_congr ih
  | map keys each ih =>
    rw [fault?, faultInEntries?_eq_none_iff, Data.IsShort, Data.every_map_iff]
    refine forall₂_congr fun e he => ?_
    -- a key that is a text has a name in the object
    obtain ⟨name, hname⟩ := keys e he
    rw [hname, ih e he]
    exact and_congr_left' (iff_true_intro rfl)
  | _ => simp [fault?, scalarFault?, Scalar.IsShort]

/-! ## Surrogates -/

/-- Code points have a form in bytes when none is a surrogate, wherever they are counted from. -/
theorem encodingFaultFrom?_eq_none_iff {i : Nat} {ps : List CodePoint} :
    encodingFaultFrom? (fun _ => false) i ps = none ↔ ∀ p ∈ ps, p.isSurrogate = false := by
  induction ps generalizing i with
  | nil => simp [encodingFaultFrom?]
  | cons p rest ih =>
    cases p with
    | char c => simp [encodingFaultFrom?, ih, CodePoint.isSurrogate]
    | surrogate code => simp [encodingFaultFrom?, CodePoint.isSurrogate]

/-- A text has a form in bytes when it has no surrogate. -/
theorem encodingFault?_eq_none_iff {s : String} :
    encodingFault? s = none ↔ ∀ p ∈ codePoints s.toList, p.isSurrogate = false :=
  encodingFaultFrom?_eq_none_iff

/-- A surrogate behind characters without the mark keeps a text from having a form in bytes.  The
    characters before it stand for themselves, so that it is read where it was written. -/
theorem encodingFault?_ne_none {before after : List Char} {x : Char}
    (hbefore : ∀ c ∈ before, c ≠ surrogateMark) (hx : (surrogate? x).isSome = true) :
    encodingFault? (String.ofList (before ++ surrogateMark :: x :: after)) ≠ none := by
  -- the characters before the surrogate are code points of their own
  have hpoints (rest : List Char) : codePoints (before ++ rest) =
      before.map .char ++ codePoints rest := by
    induction before with
    | nil => rfl
    | cons c others ih =>
      obtain ⟨hc, hothers⟩ := List.forall_mem_cons.mp hbefore
      have hwritten : [c] = CodePoint.written (.char c) := by rw [CodePoint.written, if_neg hc]
      rw [List.cons_append, ← List.singleton_append, hwritten,
        codePoints_written_append (p := .char c) trivial, ih hothers]
      rfl
  -- the mark and the character behind it are read as one surrogate
  obtain ⟨code, hcode⟩ := Option.isSome_iff_exists.mp hx
  intro hnone
  rw [encodingFault?_eq_none_iff, String.toList_ofList, hpoints, codePoints, if_pos rfl,
    CodePoint.afterMark, hcode] at hnone
  have hsurrogate := hnone (.surrogate code) (by simp)
  cases hsurrogate

/-- The code points of a text are what they say. -/
theorem isProper_of_mem_codePoints (cs : List Char) : ∀ p ∈ codePoints cs, p.IsProper := by
  -- behind a mark stands one of the shifted codes, whose range is that of the surrogates, or the
  -- mark itself
  have hafter (c : Char) : (CodePoint.afterMark c).IsProper := by
    unfold CodePoint.afterMark
    split
    · next code hcode =>
      unfold surrogate? at hcode
      split at hcode
      · next hrange =>
        have hshift : surrogateShift = 0x100000 := rfl
        have hvalue : c.toNat - surrogateShift = code := Option.some.inj hcode
        show 0xd800 ≤ code ∧ code ≤ 0xdfff
        omega
      · cases hcode
    · trivial
  -- the induction is that of the reader, which takes one character or two
  induction cs using codePoints.induct with
  | case1 => exact fun p hp => absurd hp List.not_mem_nil
  | case2 c => exact List.forall_mem_singleton.mpr trivial
  | case3 d rest ih =>
    rw [codePoints, if_pos rfl]
    exact List.forall_mem_cons.mpr ⟨hafter d, ih⟩
  | case4 c d rest hc ih =>
    rw [codePoints, if_neg hc]
    exact List.forall_mem_cons.mpr ⟨trivial, ih⟩

/-- **Writing code points.**  The characters write a row of code points, and no surrogate is among
    them just in case `p` holds.  The row is kept beside the characters because it cannot be had
    from them piece by piece: a mark at the end of one piece would take the first character of the
    next one with it. -/
def Writes (cs : List Char) (p : Prop) : Prop :=
  ∃ ps : List CodePoint, (∀ q ∈ ps, q.IsProper) ∧ cs = ofCodePoints ps ∧
    ((∀ q ∈ ps, q.isSurrogate = false) ↔ p)

/-- What characters write is what their text is read as. -/
theorem Writes.encodingFault? {cs : List Char} {p : Prop} (h : Writes cs p) :
    encodingFault? (String.ofList cs) = none ↔ p := by
  obtain ⟨ps, hproper, rfl, hp⟩ := h
  rw [encodingFault?_eq_none_iff, String.toList_ofList, codePoints_ofCodePoints hproper]
  exact hp

section Parts

variable {cs ds : List Char} {p q : Prop}

/-- Characters one after the other write rows one after the other, and both conditions have to
    hold. -/
theorem Writes.append (hcs : Writes cs p) (hds : Writes ds q) : Writes (cs ++ ds) (p ∧ q) := by
  obtain ⟨ps, hps, rfl, hp⟩ := hcs
  obtain ⟨qs, hqs, rfl, hq⟩ := hds
  refine ⟨ps ++ qs, List.forall_mem_append.mpr ⟨hps, hqs⟩, List.flatMap_append.symm, ?_⟩
  rw [List.forall_mem_append, hp, hq]

/-- The condition may be replaced by an equivalent one. -/
theorem Writes.congr (h : Writes cs p) (hpq : p ↔ q) : Writes cs q := by
  obtain ⟨ps, hps, hcs, hp⟩ := h
  exact ⟨ps, hps, hcs, hp.trans hpq⟩

/-- Both ways to say that the mark is not among some characters.  The first one can be decided for
    characters that are given, the second one goes through appending. -/
theorem unmarked_of_not_mem (h : surrogateMark ∉ cs) : ∀ c ∈ cs, c ≠ surrogateMark := by
  rintro c hc rfl
  exact h hc

/-- Characters without the mark of surrogates write themselves. -/
theorem Writes.unmarked (h : ∀ c ∈ cs, c ≠ surrogateMark) : Writes cs True := by
  refine ⟨cs.map .char, List.forall_mem_map.mpr fun _ _ => trivial, ?_, ?_⟩
  · rw [ofCodePoints, List.flatMap_map]
    induction cs with
    | nil => rfl
    | cons c rest ih =>
      obtain ⟨hc, hrest⟩ := List.forall_mem_cons.mp h
      rw [List.flatMap_cons, ← ih hrest, CodePoint.written, if_neg hc]
      rfl
  · exact iff_true_intro (List.forall_mem_map.mpr fun _ _ => rfl)

/-- They can be put before what others write. -/
theorem Writes.after (h : Writes ds q) (hcs : ∀ c ∈ cs, c ≠ surrogateMark) :
    Writes (cs ++ ds) q :=
  ((Writes.unmarked hcs).append h).congr (iff_of_eq (true_and _))

/-- A code point that is written is one. -/
theorem Writes.point {point : CodePoint} (h : point.IsProper) :
    Writes point.written (point.isSurrogate = false) := by
  refine ⟨[point], List.forall_mem_singleton.mpr h, ?_, ?_⟩
  · rw [ofCodePoints, List.flatMap_cons, List.flatMap_nil, List.append_nil]
  · exact List.forall_mem_singleton

end Parts

/-- Parts one after the other write what each of them does. -/
theorem Writes.flatMap {α : Type} {f : α → List Char} {P : α → Prop} {xs : List α}
    (h : ∀ x ∈ xs, Writes (f x) (P x)) : Writes (xs.flatMap f) (∀ x ∈ xs, P x) := by
  induction xs with
  | nil => exact ⟨[], by simp, rfl, by simp⟩
  | cons x rest ih =>
    obtain ⟨hx, hrest⟩ := List.forall_mem_cons.mp h
    rw [List.flatMap_cons]
    exact (hx.append (ih hrest)).congr List.forall_mem_cons.symm

/-! ## Numerals

Digits, signs and points are ASCII, so no numeral has the mark of surrogates in it.  For decimal
numbers this is followed through the choice of the shortest digits and of the notation. -/

/-- Digits have no mark among them. -/
theorem natDigits_unmarked (n : Nat) : ∀ c ∈ natDigits n, c ≠ surrogateMark := by
  rintro c hc rfl
  have hdigit := isDigit_of_mem_natDigits hc
  revert hdigit
  decide

/-- Nor have digits behind a sign. -/
theorem intDigits_unmarked (n : Int) : ∀ c ∈ intDigits n, c ≠ surrogateMark := by
  unfold intDigits
  split
  · exact List.forall_mem_cons.mpr ⟨by decide, natDigits_unmarked _⟩
  · exact natDigits_unmarked _

/-- The shortest digits are those of some number without the zeros at their end, or a single
    zero. -/
theorem shortestDigits_unmarked (significand : Nat) (exponent : Int) :
    ∀ c ∈ (shortestDigits significand exponent).1, c ≠ surrogateMark := by
  unfold shortestDigits
  simp only []
  split
  · next ds k hfound =>
    obtain ⟨n, -, hn⟩ := List.exists_of_findSome?_eq_some hfound
    obtain ⟨m, -, hm⟩ := Option.map_eq_some_iff.mp hn
    cases hm
    intro c hc
    have hmem := (List.dropWhile_sublist _).mem (List.mem_reverse.mp hc)
    exact natDigits_unmarked m c (List.mem_reverse.mp hmem)
  · exact unmarked_of_not_mem (by decide)

/-- Digits with a point among them, or with zeros on one side, have no mark. -/
theorem positional_unmarked {ds : List Char} (h : ∀ c ∈ ds, c ≠ surrogateMark) (point : Int) :
    ∀ c ∈ positional ds point, c ≠ surrogateMark := by
  have hzeros (n : Nat) : ∀ c ∈ List.replicate n '0', c ≠ surrogateMark := by
    intro c hc
    rw [List.eq_of_mem_replicate hc]
    decide
  unfold positional
  split
  · -- the point stands before all digits
    refine List.forall_mem_cons.mpr ⟨by decide, List.forall_mem_cons.mpr ⟨by decide, ?_⟩⟩
    exact List.forall_mem_append.mpr ⟨hzeros _, h⟩
  · split
    · -- behind all of them
      refine List.forall_mem_append.mpr ⟨List.forall_mem_append.mpr ⟨h, hzeros _⟩, ?_⟩
      exact unmarked_of_not_mem (by decide)
    · -- among them
      refine List.forall_mem_append.mpr ⟨fun c hc => h c (List.mem_of_mem_take hc), ?_⟩
      exact List.forall_mem_cons.mpr ⟨by decide, fun c hc => h c (List.mem_of_mem_drop hc)⟩

/-- Nor do digits with an exponent. -/
theorem scientific_unmarked {ds : List Char} (h : ∀ c ∈ ds, c ≠ surrogateMark) (point : Int) :
    ∀ c ∈ scientific ds point, c ≠ surrogateMark := by
  have hpadded (n : Nat) : ∀ c ∈ paddedDigits 2 n, c ≠ surrogateMark := by
    refine List.forall_mem_append.mpr ⟨?_, natDigits_unmarked n⟩
    intro c hc
    rw [List.eq_of_mem_replicate hc]
    decide
  unfold scientific
  refine List.forall_mem_append.mpr ⟨?_, List.forall_mem_cons.mpr ⟨by decide, ?_⟩⟩
  · -- the digits, with a point behind the first one
    split
    · next d rest =>
      obtain ⟨hd, hrest⟩ := List.forall_mem_cons.mp h
      split
      · exact List.forall_mem_singleton.mpr hd
      · exact List.forall_mem_cons.mpr ⟨hd, List.forall_mem_cons.mpr ⟨by decide, hrest⟩⟩
    · exact unmarked_of_not_mem (by decide)
  · -- the exponent, with its sign
    refine List.forall_mem_cons.mpr ⟨?_, hpadded _⟩
    split <;> decide

/-- A decimal number is written in ASCII. -/
theorem floatChars_unmarked (x : Float) : ∀ c ∈ floatChars x, c ≠ surrogateMark := by
  unfold floatChars
  split
  · exact unmarked_of_not_mem (by decide)
  · exact unmarked_of_not_mem (by decide)
  · exact unmarked_of_not_mem (by decide)
  · next negative m e hparts =>
    rw [shortestText, hparts]
    simp only [String.toList_ofList]
    -- without its sign a number is zero, or has its digits in one of the two notations
    have hbody : ∀ c ∈ (if (m == 0) = true then ['0', '.', '0'] else
        if (-4 < (shortestDigits m e).2 && (shortestDigits m e).2 ≤ 16) = true then
          positional (shortestDigits m e).1 (shortestDigits m e).2
        else scientific (shortestDigits m e).1 (shortestDigits m e).2), c ≠ surrogateMark := by
      have hdigits := shortestDigits_unmarked m e
      split
      · exact unmarked_of_not_mem (by decide)
      · split
        · exact positional_unmarked hdigits _
        · exact scientific_unmarked hdigits _
    split
    · exact List.forall_mem_cons.mpr ⟨by decide, hbody⟩
    · exact hbody

/-! ## Texts

A text is written between quotes, with escapes for some characters.  In files everything else is
written as it is, surrogates included. -/

/-- Sixteen characters are enough to write the code of a character. -/
theorem hexDigits_unmarked (width n : Nat) : ∀ c ∈ hexDigits width n, c ≠ surrogateMark := by
  have hdigit : ∀ m < 16, hexDigit m ≠ surrogateMark := by decide
  induction width generalizing n with
  | zero => exact fun c hc => absurd hc List.not_mem_nil
  | succ width ih =>
    refine List.forall_mem_append.mpr ⟨ih (n / 16), List.forall_mem_singleton.mpr ?_⟩
    exact hdigit _ (Nat.mod_lt _ (by decide))

/-- An escape has the code of a character in it, or those of both halves of a pair. -/
theorem unicodeEscape_unmarked (code : Nat) : ∀ c ∈ unicodeEscape code, c ≠ surrogateMark := by
  have hhalf (n : Nat) : ∀ c ∈ '\\' :: 'u' :: hexDigits 4 n, c ≠ surrogateMark :=
    List.forall_mem_cons.mpr
      ⟨by decide, List.forall_mem_cons.mpr ⟨by decide, hexDigits_unmarked 4 n⟩⟩
  unfold unicodeEscape
  split
  · exact hhalf code
  · exact List.forall_mem_append.mpr ⟨hhalf _, hhalf _⟩

/-- In files a surrogate is written as it is; what is escaped has no surrogates. -/
theorem writes_escapedPoint {p : CodePoint} (h : p.IsProper) :
    Writes (escapedPoint file p) (p.isSurrogate = false) := by
  cases p with
  | surrogate code => exact Writes.point h
  | char c =>
    have hescape {cs : List Char} (hcs : ∀ d ∈ cs, d ≠ surrogateMark) :
        Writes cs ((CodePoint.char c).isSurrogate = false) :=
      (Writes.unmarked hcs).congr (iff_of_true trivial rfl)
    show Writes (escapedChar file c) _
    unfold escapedChar
    -- two characters for each of the seven with a short escape, then the codes, then the rest
    repeat' split
    iterate 7 exact hescape (unmarked_of_not_mem (by decide))
    iterate 2 exact hescape (unicodeEscape_unmarked _)
    exact Writes.point h

/-- A text in its quotes has surrogates when the text has. -/
theorem writes_textChars (s : String) : Writes (textChars file s) (encodingFault? s = none) := by
  have hquote : ∀ c ∈ ['"'], c ≠ surrogateMark := unmarked_of_not_mem (by decide)
  have hbody := Writes.flatMap (f := escapedPoint file) fun p hp =>
    writes_escapedPoint (isProper_of_mem_codePoints s.toList p hp)
  have hclosed := (hbody.append (Writes.unmarked hquote)).congr (iff_of_eq (and_true _))
  exact (hclosed.after hquote).congr encodingFault?_eq_none_iff.symm

/-! ## Values

Lists and objects are written with brackets around them and separators between their parts.  Their
first part is treated apart from the later ones, as the writer does. -/

/-- The beginning of a line is blank, and the mark is not. -/
theorem lineStart_unmarked (f : Format) (depth : Nat) :
    ∀ c ∈ lineStart f depth, c ≠ surrogateMark := by
  rintro c hc rfl
  have hspace := isSpace_of_mem_lineStart _ hc
  revert hspace
  decide

/-- Nor is the mark in what separates two parts: a comma and blanks. -/
theorem between_unmarked (f : Format) (depth : Nat) :
    ∀ c ∈ between f depth, c ≠ surrogateMark := by
  obtain ⟨blanks, hbetween, hblanks⟩ := between_eq f depth
  rw [hbetween]
  refine List.forall_mem_cons.mpr ⟨by decide, ?_⟩
  rintro c hc rfl
  have hspace := hblanks _ hc
  revert hspace
  decide

section Parts

variable {depth : Nat}

/-- What is written with a bracket before it, and another one on a line of its own after it. -/
theorem Writes.enclosed {cs : List Char} {p : Prop} (h : Writes cs p) (depth : Nat)
    {opening closing : Char} (hopening : opening ≠ surrogateMark)
    (hclosing : closing ≠ surrogateMark) :
    Writes (opening :: lineStart file (depth + 1) ++ (cs ++ (lineStart file depth ++ [closing])))
      p := by
  have hend : ∀ c ∈ lineStart file depth ++ [closing], c ≠ surrogateMark :=
    List.forall_mem_append.mpr ⟨lineStart_unmarked file depth, by simpa using hclosing⟩
  refine ((h.append (Writes.unmarked hend)).congr (iff_of_eq (and_true _))).after ?_
  exact List.forall_mem_cons.mpr ⟨hopening, lineStart_unmarked file (depth + 1)⟩

/-- The items after the first one, each behind a separator. -/
theorem writes_laterItems {P : Data → Prop} {ds : List Data}
    (h : ∀ d ∈ ds, Writes (chars file depth d) (P d)) :
    Writes (laterItems file depth ds) (∀ d ∈ ds, P d) := by
  induction ds with
  | nil => exact (Writes.unmarked (by simp [laterItems])).congr (by simp)
  | cons d rest ih =>
    obtain ⟨hd, hrest⟩ := List.forall_mem_cons.mp h
    rw [laterItems]
    exact ((hd.append (ih hrest)).after (between_unmarked file depth)).congr
      List.forall_mem_cons.symm

/-- A key, and what stands under it. -/
theorem writes_entry {P : Data → Prop} (name : String) {d : Data}
    (h : Writes (chars file depth d) (P d)) :
    Writes (textChars file (keyText (.text name)) ++ ':' :: ' ' :: chars file depth d)
      (Scalar.IsEncodable (.text name) ∧ P d) := by
  have hcolon : ∀ c ∈ [':', ' '], c ≠ surrogateMark := unmarked_of_not_mem (by decide)
  refine ((writes_textChars name).append (h.after hcolon)).congr (and_congr_left' ?_)
  exact ⟨fun hname t ht => by cases ht; exact hname, fun hname => hname name rfl⟩

/-- The entries after the first one, each behind a separator.  Their keys are texts. -/
theorem writes_laterEntries {P : Data → Prop} {entries : Record}
    (keys : ∀ e ∈ entries, ∃ name, e.1 = .text name)
    (h : ∀ e ∈ entries, Writes (chars file depth e.2) (P e.2)) :
    Writes (laterEntries file depth entries) (∀ e ∈ entries, e.1.IsEncodable ∧ P e.2) := by
  induction entries with
  | nil => exact (Writes.unmarked (by simp [laterEntries])).congr (by simp)
  | cons e rest ih =>
    obtain ⟨⟨name, hname⟩, hnames⟩ := List.forall_mem_cons.mp keys
    obtain ⟨he, hrest⟩ := List.forall_mem_cons.mp h
    obtain ⟨key, d⟩ := e
    subst hname
    rw [laterEntries]
    refine Writes.congr (((writes_entry name he).append (ih hnames hrest)).after
      (between_unmarked file depth)) ?_
    rw [List.forall_mem_cons]

end Parts

/-- **The file text of a value** has surrogates when the value has, in a key or in a text.  The
    induction is on the shape, for any depth, since the parts of a value are written one level
    deeper. -/
theorem writes_chars {d : Data} (h : Shaped d) (depth : Nat) :
    Writes (chars file depth d) d.IsEncodable := by
  -- scalars other than texts are written in ASCII and have no surrogates
  have hplain {s : Scalar} (hs : s.IsEncodable) {cs : List Char}
      (hcs : ∀ c ∈ cs, c ≠ surrogateMark) : Writes cs (Data.scalar s).IsEncodable :=
    (Writes.unmarked hcs).congr (iff_of_true trivial (.scalar hs))
  induction h generalizing depth with
  | null =>
    refine hplain (s := .null) (by rintro t ⟨⟩) (unmarked_of_not_mem ?_)
    simp only [chars, scalarChars]
    decide
  | bool b =>
    refine hplain (s := .bool b) (by rintro t ⟨⟩) (unmarked_of_not_mem ?_)
    cases b <;> (simp only [chars, scalarChars]; decide)
  | int n => exact hplain (s := .int n) (by rintro t ⟨⟩) (intDigits_unmarked n)
  | float x => exact hplain (s := .float x) (by rintro t ⟨⟩) (floatChars_unmarked x)
  | text s =>
    refine (writes_textChars s).congr ?_
    rw [Data.IsEncodable, Data.every_scalar_iff]
    exact ⟨fun hs t ht => by cases ht; exact hs, fun hs => hs s rfl⟩
  | @list items each ih =>
    rw [Data.IsEncodable, Data.every_list_iff]
    cases items with
    | nil =>
      rw [chars, listChars]
      exact (Writes.unmarked (unmarked_of_not_mem (by decide))).congr (by simp)
    | cons d rest =>
      obtain ⟨hd, hrest⟩ := List.forall_mem_cons.mp ih
      -- the first item and the later ones, between the brackets
      have hitems := (hd (depth + 1)).append (writes_laterItems fun d hd => hrest d hd (depth + 1))
      have hlist := hitems.enclosed depth (by decide : '[' ≠ surrogateMark)
        (by decide : ']' ≠ surrogateMark)
      rw [List.append_assoc] at hlist
      rw [chars, listChars, List.append_assoc]
      exact hlist.congr List.forall_mem_cons.symm
  | @map entries keys each ih =>
    rw [Data.IsEncodable, Data.every_map_iff]
    cases entries with
    | nil =>
      rw [chars]
      exact (Writes.unmarked (unmarked_of_not_mem (by decide))).congr (by simp)
    | cons e rest =>
      obtain ⟨⟨name, hname⟩, hnames⟩ := List.forall_mem_cons.mp keys
      obtain ⟨he, hrest⟩ := List.forall_mem_cons.mp ih
      obtain ⟨key, d⟩ := e
      subst hname
      -- the first entry and the later ones, between the braces
      have hentries := (writes_entry name (he (depth + 1))).append
        (writes_laterEntries hnames fun e he => hrest e he (depth + 1))
      have hmap := hentries.enclosed depth (by decide : '\x7b' ≠ surrogateMark)
        (by decide : '\x7d' ≠ surrogateMark)
      rw [List.append_assoc] at hmap
      rw [chars, List.append_assoc, List.forall_mem_cons]
      exact hmap

/-- The file text of a value has a form in bytes when no key and no text within it has
    surrogates. -/
theorem encodingFault?_file_iff {d : Data} (h : Shaped d) :
    encodingFault? (String.ofList (chars file 0 d)) = none ↔ d.IsEncodable :=
  (writes_chars h 0).encodingFault?

/-! ## Values with a JSON form of their own -/

/-- A value with a JSON form of its own has the shape of JSON. -/
theorem IsJson.shaped {d : Data} (h : IsJson d) : Shaped d := by
  induction h with
  | scalar scalar =>
    cases scalar with
    | null => exact .null
    | bool b => exact .bool b
    | int n => exact .int n
    | text _ => exact .text _
  | list _ ih => exact .list ih
  | map keys _ _ ih => exact .map (fun e he => (keys e he).imp fun _ hkey => hkey.1) ih

/-- A whole text has a form in bytes. -/
theorem encodingFault?_of_isWhole {s : String} (h : IsWhole s) : encodingFault? s = none := by
  obtain ⟨cs, rfl⟩ := h
  rw [encodingFault?_eq_none_iff, codePoints_textOf, List.forall_mem_map]
  exact fun _ _ => rfl

/-- Neither its keys nor its texts have surrogates. -/
theorem IsJson.isEncodable {d : Data} (h : IsJson d) : d.IsEncodable := by
  have htext {s : String} (hs : IsWhole s) : Scalar.IsEncodable (.text s) := by
    rintro t ⟨⟩
    exact encodingFault?_of_isWhole hs
  induction h with
  | scalar scalar =>
    refine .scalar ?_
    cases scalar with
    | text whole => exact htext whole
    | _ => rintro t ⟨⟩
  | list _ ih => exact .list ih
  | map keys _ _ ih =>
    refine .map ?_ ih
    intro e he
    obtain ⟨name, hname, hwhole⟩ := keys e he
    rw [hname]
    exact htext hwhole

end Json

end NewsSearch
