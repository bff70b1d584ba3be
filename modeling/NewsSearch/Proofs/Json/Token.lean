import NewsSearch.Json.Reader
import NewsSearch.Json.Writer

/-!
Words, numerals and texts of JSON read back.

The writer puts scalars down as words, numerals and quoted texts.  This file says that the reader
finds each of them again and stops right behind it.

The numerals.

1. A numeral ends where no digit follows, nor anything that would make it a decimal number (`Ends`).
   The digits are taken together up to there (`wholeDigits?_natDigits`): a number is written without
   a leading zero (`natDigits_eq_cons`), and behind a leading zero the reader would stop at once.
2. The digits denote the number they were written for (`digitsNumber_natDigits`).
3. There are not more of them than the reader takes, since the writer refuses longer ones.  The
   writer decides this by the binary digits when these are few (`lt_pow10_of_log2_lt`), so that both
   tests have to be shown to be the same (`isTooLong_eq_false_iff`).

The texts.

1. Inside a text every character is written by itself, by a short escape, by its code, or by the two
   halves of a pair.  The reader takes each of these as one step, whatever stands behind it
   (`Reads`, `reads_escapedChar`).
2. That holds for characters.  A half that stands alone would be read together with a half behind
   it, so that two characters become one.  Therefore the texts that read back are the whole ones
   (`Text.IsWhole`), by induction on their characters (`textBody_escaped`).

Main statements: `plainValue_intDigits`, `textBody_textChars`.
-/

namespace NewsSearch

/-- The text is made of characters: no half of a pair stands alone in it. -/
def Text.IsWhole (s : String) : Prop :=
  ∃ cs : List Char, s = Text.textOf (cs.map .char)

namespace Json

open Number Text

/-! ## Numerals -/

/-- What may follow a numeral without being taken for a part of it. -/
def Ends (rest : List Char) : Prop :=
  ∀ c ∈ rest.head?, c.isDigit = false ∧ c ≠ '.' ∧ c ≠ 'e' ∧ c ≠ 'E'

/-- The digits of a number are digits of the reader. -/
theorem isDigit_of_mem_natDigits {n : Nat} {c : Char} (h : c ∈ natDigits n) : c.isDigit = true :=
  Nat.isDigit_of_mem_toDigits (by decide) (by decide) h

/-- The number that the digits of a number denote is that number, so that what the reader makes of a
    numeral is what the writer put down. -/
theorem digitsNumber_natDigits (n : Nat) : digitsNumber (natDigits n) = n :=
  Nat.ofDigitChars_toDigits (by decide) (by decide)

/-- Only zero is written with a zero in front.  By strong induction: a number of one digit is its
    own first digit, and any other begins as its tenth part does. -/
theorem natDigits_eq_cons {n : Nat} (hn : n ≠ 0) : ∃ c ds, natDigits n = c :: ds ∧ c ≠ '0' := by
  induction n using Nat.strongRecOn with
  | _ n ih =>
    by_cases hsmall : n < 10
    · refine ⟨n.digitChar, [], Nat.toDigits_of_lt_base hsmall, ?_⟩
      have hall : ∀ n < 10, n ≠ 0 → n.digitChar ≠ '0' := by decide
      exact hall n hsmall hn
    · obtain ⟨c, ds, hds, hc⟩ := ih (n / 10) (by omega) (by omega)
      refine ⟨c, ds ++ [(n % 10).digitChar], ?_, hc⟩
      rw [natDigits, Nat.toDigits_of_base_le (by decide) (by omega)]
      rw [natDigits] at hds
      rw [hds, List.cons_append]

/-- A number below a power of ten has no more digits than the power has zeros. -/
theorem length_natDigits_le_of_lt {n digits : Nat} (hdigits : 0 < digits)
    (h : n < pow10 digits) : (natDigits n).length ≤ digits :=
  (Nat.length_toDigits_le_iff (by decide) hdigits).mpr h

/-- A number of 140 binary digits has at most 43 decimal ones, because `2 ^ 140 ≤ 10 ^ 43`, and so
    on for multiples. -/
theorem lt_pow10_of_log2_lt {n k : Nat} (h : n.log2 < 140 * k) : n < pow10 (43 * k) := by
  by_cases hzero : n = 0
  · subst hzero
    exact Nat.pow_pos (by decide)
  · have hpower : (2 ^ 140) ^ k ≤ (10 ^ 43) ^ k := Nat.pow_le_pow_left (by decide) k
    rw [← Nat.pow_mul, ← Nat.pow_mul] at hpower
    exact Nat.lt_of_lt_of_le ((Nat.log2_lt hzero).mp h) hpower

/-- An integer may be written when it has no more decimal digits than the limit.  The test looks at
    the binary digits first and counts the decimal ones only when there are many; the limit is a
    hundred times 43. -/
theorem isTooLong_eq_false_iff {n : Int} :
    isTooLong n = false ↔ n.natAbs < pow10 digitLimit := by
  unfold isTooLong
  split
  · next hbits =>
    have hlimit : digitLimit = 43 * 100 := rfl
    have hshort : n.natAbs < pow10 digitLimit := by
      rw [hlimit]
      exact lt_pow10_of_log2_lt hbits
    exact ⟨fun _ => hshort, fun _ => rfl⟩
  · rw [decide_eq_false_iff_not, Nat.not_le]

/-- An integer that may be written has no more digits than may be read. -/
theorem length_natDigits_le {n : Int} (h : isTooLong n = false) :
    (natDigits n.natAbs).length ≤ digitLimit :=
  length_natDigits_le_of_lt (by decide) (isTooLong_eq_false_iff.mp h)

/-- The digits of a number are taken together, up to what follows them.  Zero is taken alone; any
    other number begins with another digit and goes on as long as digits come. -/
theorem wholeDigits?_natDigits (n : Nat) {rest : List Char}
    (hrest : ∀ c ∈ rest.head?, c.isDigit = false) :
    wholeDigits? (natDigits n ++ rest) = some (natDigits n, rest) := by
  by_cases hn : n = 0
  · subst hn
    rfl
  · obtain ⟨c, ds, hds, hc⟩ := natDigits_eq_cons hn
    have hdigits : ∀ d ∈ c :: ds, d.isDigit = true := fun d hd =>
      isDigit_of_mem_natDigits (hds ▸ hd)
    obtain ⟨hhead, htail⟩ := List.forall_mem_cons.mp hdigits
    -- nothing of what follows is taken with the digits
    have htake : rest.takeWhile Char.isDigit = [] := by
      cases rest with
      | nil => rfl
      | cons d _ => simp [hrest d rfl]
    have hdrop : rest.dropWhile Char.isDigit = rest := by
      cases rest with
      | nil => rfl
      | cons d _ => simp [hrest d rfl]
    rw [hds, List.cons_append, wholeDigits?, if_pos hhead]
    · rw [List.takeWhile_append_of_pos htail, List.dropWhile_append_of_pos htail, htake, hdrop,
        List.append_nil]
    · exact hc

/-- A numeral without its sign is read as an integer.  What follows it is neither a fraction nor an
    exponent, and there are not too many digits to be read. -/
theorem unsignedNumber?_natDigits (negative : Bool) {n : Nat} {rest : List Char}
    (hlength : (natDigits n).length ≤ digitLimit) (hrest : Ends rest) :
    unsignedNumber? negative (natDigits n ++ rest) =
      some (.ok (.int (if negative then -n else n), rest)) := by
  have hfraction : fraction rest = ([], rest) := by
    unfold fraction
    split
    · exact absurd rfl (hrest '.' rfl).2.1
    · rfl
  have hexponent : exponent rest = (none, rest) := by
    cases rest with
    | nil => rfl
    | cons c others =>
      obtain ⟨-, -, he, hE⟩ := hrest c rfl
      simp only [exponent, he, hE, or_self, if_false]
  rw [unsignedNumber?, wholeDigits?_natDigits n fun c hc => (hrest c hc).1]
  simp only [Option.map_some, hfraction, hexponent, List.isEmpty_nil, Option.isNone_none,
    Bool.and_self, if_true, if_neg (Nat.not_lt.mpr hlength), digitsNumber_natDigits]

/-- A numeral without a sign is no word and has no sign: it begins with a digit. -/
theorem head_natDigits (n : Nat) : ∃ c ds, natDigits n = c :: ds ∧ c.isDigit = true := by
  cases hds : natDigits n with
  | nil => exact absurd hds (List.ne_nil_of_length_pos Nat.length_toDigits_pos)
  | cons c ds => exact ⟨c, ds, rfl, isDigit_of_mem_natDigits (hds ▸ List.mem_cons_self)⟩

/-- A numeral is read with its sign, if there is one. -/
theorem number?_intDigits {n : Int} {rest : List Char} (hn : isTooLong n = false)
    (hrest : Ends rest) : number? (intDigits n ++ rest) = some (.ok (.int n, rest)) := by
  have hlength := length_natDigits_le hn
  unfold intDigits
  split
  · next hnegative =>
    have hvalue : -(n.natAbs : Int) = n := by omega
    rw [List.cons_append, number?, unsignedNumber?_natDigits true hlength hrest, if_pos rfl, hvalue]
  · next hnatural =>
    have hvalue : (n.natAbs : Int) = n := by omega
    obtain ⟨c, ds, hds, hc⟩ := head_natDigits n.natAbs
    have hunsigned := unsignedNumber?_natDigits false hlength hrest
    rw [if_neg Bool.false_ne_true, hvalue] at hunsigned
    rw [← hunsigned, hds, List.cons_append, number?]
    rintro rest' heq
    cases heq
    cases hc

/-- No word begins as a numeral does. -/
theorem word?_intDigits (n : Int) (rest : List Char) : word? (intDigits n ++ rest) = none := by
  obtain ⟨c, ds, hds, hc⟩ := head_natDigits n.natAbs
  have hother : ∀ w : Char, w.isDigit = false → w ≠ c := by
    rintro w hw rfl
    rw [hc] at hw
    cases hw
  unfold intDigits
  rw [hds]
  split
  · simp [word?, words, hother]
  · simp [word?, words, hother]

/-- **A numeral reads back.**  The numeral of an integer that may be written is read as this
    integer, and what follows it is left. -/
theorem plainValue_intDigits {n : Int} {rest : List Char} (hn : isTooLong n = false)
    (hrest : Ends rest) : plainValue (intDigits n ++ rest) = .ok (.int n, rest) := by
  rw [plainValue, word?_intDigits, number?_intDigits hn hrest]

/-! ## Characters of a text

The reader goes along the text and takes one written character after the other.  What is said of
each is what the reader makes of it, with anything behind it. -/

section Characters

variable {opened : Nat}

/-- A part of a text is read as some characters, and the others after it.  The part must not be the
    last of the text: there is at least the closing quote behind it. -/
def Reads (opened : Nat) (part : List Char) (cs : List Char) : Prop :=
  ∀ next rest, textBody opened (part ++ next :: rest) =
    (textBody opened (next :: rest)).map fun (others, r) => (cs ++ others, r)

/-- A short escape is read as the character that it stands for. -/
theorem reads_short {c e : Char} (hc : c ≠ 'u') (he : shortEscape? c = some e) :
    Reads opened ['\\', c] [e] := by
  intro next rest
  rw [List.cons_append, List.cons_append, List.nil_append, textBody]
  · rw [he]
    rfl
  all_goals simp [hc]

/-- A character that needs no escape is read as itself. -/
theorem reads_raw {c : Char} (hquote : c ≠ '"') (hescape : c ≠ '\\') (hcontrol : ¬ c.toNat < 32) :
    Reads opened [c] [c] := by
  intro next rest
  rw [List.cons_append, List.nil_append, textBody, if_neg hcontrol]
  · rfl
  all_goals simp [hquote, hescape]

/-- Four hexadecimal digits one by one, as the reader matches them, with their value. -/
theorem hexDigits_four {n : Nat} (hn : n < 0x10000) :
    ∃ a b c d, hexDigits 4 n = [a, b, c, d] ∧ hexValue? [a, b, c, d] = some n :=
  ⟨_, _, _, _, rfl, hexValue?_hexDigits (show n < Nat.pow 16 4 from hn)⟩

/-- A code of four digits is read as its character, unless it is the first half of a pair: then the
    reader looks for the second half. -/
theorem reads_unit {unit : Nat} (hunit : unit < 0x10000) (hhigh : isHighHalf unit = false) :
    Reads opened ('\\' :: 'u' :: hexDigits 4 unit) (unitChars unit) := by
  intro next rest
  obtain ⟨a, b, c, d, hdigits, hvalue⟩ := hexDigits_four hunit
  simp only [hdigits, List.cons_append, List.nil_append, textBody, hvalue, hhigh]

/-- Two halves in their order are read as the one character they make together. -/
theorem reads_pair {high low : Nat} (hhigh : isHighHalf high = true) (hlow : isLowHalf low = true) :
    Reads opened ('\\' :: 'u' :: hexDigits 4 high ++ '\\' :: 'u' :: hexDigits 4 low)
      (pairChars high low) := by
  intro next rest
  have hhigh' : high < 0x10000 := by
    simp only [isHighHalf, Bool.and_eq_true, decide_eq_true_eq] at hhigh
    omega
  have hlow' : low < 0x10000 := by
    simp only [isLowHalf, Bool.and_eq_true, decide_eq_true_eq] at hlow
    omega
  obtain ⟨a, b, c, d, hdigits, hvalue⟩ := hexDigits_four hhigh'
  obtain ⟨e, f, g, h, hdigits', hvalue'⟩ := hexDigits_four hlow'
  simp only [hdigits, hdigits', List.cons_append, List.nil_append]
  rw [textBody]
  simp only [hvalue, hhigh, hvalue', hlow, if_true]

/-- Parts are read one after the other.  The second one must not be empty, since the first one is
    read with something behind it. -/
theorem Reads.append {first second cs ds : List Char} (hfirst : Reads opened first cs)
    (hsecond : Reads opened second ds) (hne : second ≠ []) :
    Reads opened (first ++ second) (cs ++ ds) := by
  intro next rest
  obtain ⟨c, others, rfl⟩ := List.exists_cons_of_ne_nil hne
  rw [List.append_assoc, List.cons_append, hfirst, ← List.cons_append, hsecond]
  cases textBody opened (next :: rest) with
  | error _ => rfl
  | ok found => simp only [Except.map, List.append_assoc]

/-- The code of a character is that of no half, below or above the codes that are kept for
    halves. -/
theorem toNat_not_half (c : Char) : c.toNat < 0xD800 ∨ 0xDFFF < c.toNat ∧ c.toNat < 0x110000 :=
  c.valid

/-- The reader makes of a code the character with that code. -/
theorem unitChars_toNat (c : Char) : unitChars c.toNat = (CodePoint.char c).written := by
  have hcode : CodePoint.ofCode c.toNat = .char c := by
    rw [CodePoint.ofCode, if_neg, Char.ofNat_toNat]
    have := toNat_not_half c
    omega
  rw [unitChars, hcode]

/-- A character that is written by its code is read again.  Beyond the four digits it takes a pair,
    whose halves put together give its code. -/
theorem reads_unicodeEscape (c : Char) :
    Reads opened (unicodeEscape c.toNat) (CodePoint.char c).written := by
  have hvalid := toNat_not_half c
  rw [← unitChars_toNat]
  unfold unicodeEscape
  split
  · next hunit =>
    refine reads_unit hunit ?_
    rw [isHighHalf, Bool.and_eq_false_iff, decide_eq_false_iff_not, decide_eq_false_iff_not]
    omega
  · next hbeyond =>
    have hhigh : isHighHalf (0xD800 + (c.toNat - 0x10000) / 0x400) = true := by
      simp only [isHighHalf, Bool.and_eq_true, decide_eq_true_eq]
      omega
    have hlow : isLowHalf (0xDC00 + (c.toNat - 0x10000) % 0x400) = true := by
      simp only [isLowHalf, Bool.and_eq_true, decide_eq_true_eq]
      omega
    have hpair : Reads opened _ _ := reads_pair hhigh hlow
    rw [pairChars] at hpair
    have hcode : 0x10000 + (0xD800 + (c.toNat - 0x10000) / 0x400 - 0xD800) * 0x400 +
        (0xDC00 + (c.toNat - 0x10000) % 0x400 - 0xDC00) = c.toNat := by
      omega
    -- the two halves put together again are the code of the character
    rw [hcode] at hpair
    exact hpair

/-- A character that is written as it stands is read as it stands; the mark of a half in a text is
    written twice and read twice. -/
theorem reads_written {c : Char} (hquote : c ≠ '"') (hescape : c ≠ '\\')
    (hcontrol : ¬ c.toNat < 32) :
    Reads opened (CodePoint.char c).written (CodePoint.char c).written := by
  have hraw : Reads opened [c] [c] := reads_raw hquote hescape hcontrol
  rw [CodePoint.written]
  split
  · next hmark =>
    rw [← hmark]
    exact hraw.append hraw (List.cons_ne_nil _ _)
  · exact hraw

/-- **A character reads back.**  Inside a text, whichever form the writer chooses for it, it is read
    as it is written in the text. -/
theorem reads_escapedChar (f : Format) (c : Char) :
    Reads opened (escapedChar f c) (CodePoint.char c).written := by
  -- the cases are the short escapes, in the order in which the writer tries them, and then what has
  -- none
  unfold escapedChar
  split
  · next hquote => subst hquote; exact reads_short (by decide) rfl
  next hquote =>
  split
  · next hescape => subst hescape; exact reads_short (by decide) rfl
  next hescape =>
  split
  · next h => subst h; exact reads_short (by decide) rfl
  split
  · next h => subst h; exact reads_short (by decide) rfl
  split
  · next h => subst h; exact reads_short (by decide) rfl
  split
  · next h =>
    have hc : c = Char.ofNat 8 := by rw [← h, Char.ofNat_toNat]
    subst hc
    exact reads_short (by decide) rfl
  split
  · next h =>
    have hc : c = Char.ofNat 12 := by rw [← h, Char.ofNat_toNat]
    subst hc
    exact reads_short (by decide) rfl
  split
  · exact reads_unicodeEscape c
  next hcontrol =>
  split
  · exact reads_unicodeEscape c
  · exact reads_written hquote hescape hcontrol

end Characters

/-! ## Texts -/

/-- The code points of a whole text are its characters, so that the writer finds no half among
    them. -/
theorem codePoints_textOf (cs : List Char) :
    codePoints (textOf (cs.map .char)).toList = cs.map .char := by
  rw [textOf, String.toList_ofList, codePoints_ofCodePoints]
  intro p hp
  obtain ⟨c, -, rfl⟩ := List.mem_map.mp hp
  trivial

/-- Escaped characters are read up to the closing quote, by induction on the characters: behind each
    of them there are others or the quote. -/
theorem textBody_escaped (f : Format) (opened : Nat) (cs rest : List Char) :
    textBody opened (cs.flatMap (escapedChar f) ++ '"' :: rest) =
      .ok (ofCodePoints (cs.map .char), rest) := by
  induction cs with
  | nil => rfl
  | cons c cs ih =>
    have hne : cs.flatMap (escapedChar f) ++ '"' :: rest ≠ [] := by simp
    obtain ⟨next, others, hothers⟩ := List.exists_cons_of_ne_nil hne
    rw [List.flatMap_cons, List.append_assoc, hothers, reads_escapedChar f c next others, ← hothers,
      ih]
    rfl

/-- **A whole text reads back.**  Its characters, as they are written, are read up to the closing
    quote, and the reader ends with the text itself. -/
theorem textBody_textChars (f : Format) {s : String} (hs : IsWhole s) (opened : Nat)
    (rest : List Char) :
    textBody opened ((codePoints s.toList).flatMap (escapedPoint f) ++ '"' :: rest) =
      .ok (s.toList, rest) := by
  obtain ⟨cs, rfl⟩ := hs
  have hescaped : (cs.map CodePoint.char).flatMap (escapedPoint f) =
      cs.flatMap (escapedChar f) := by
    rw [List.flatMap_map]
    rfl
  rw [codePoints_textOf, hescaped, textBody_escaped, textOf, String.toList_ofList]

end Json

end NewsSearch
