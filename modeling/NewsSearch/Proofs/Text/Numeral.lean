import Mathlib.Data.List.Basic
import Mathlib.Data.List.TakeWhile
import NewsSearch.Proofs.Text.Trimming
import NewsSearch.Text.Integer

/-!
Runs of digits as integers.

A run of decimal digits, of whatever script, denotes a number (`Denotes`), and the reader of
integers finds that number unless the digits are too many.  A run may also have a character that
counts as a digit without having a value, such as a superscript; then the reader finds no integer.

1. The reader takes each digit as the ASCII digit of the same value (`numeralChar_of_digitValue?`),
   and a further digit as a character that stands for nothing (`numeralChar_of_sign`).
2. None of these is blank or a sign (`numeralChar_of_isDigit`), so that nothing of a run is cut off
   before it is read (`numeralChars_eq`, `signOf_eq`).  The blanks are a few, so that this is seen
   by going through them (`mem_blankCodes`).
3. Hence the digits are all taken, and their number is the one they denote
   (`numberTo_numeralChars`); a further digit stops the reader before the end.

Main statements: `integerTo_of_denotes`, `integerTo_of_sign`.
-/

namespace NewsSearch.Text

/-- The number that decimal digits of any script denote. -/
def decimalNumber (cs : List Char) : Nat :=
  cs.foldl (fun n c => 10 * n + (digitValue? c).getD 0) 0

/-- The characters are a decimal numeral of the number: there are some, and each of them is a
    decimal digit. -/
structure Denotes (cs : List Char) (n : Nat) : Prop where
  filled : cs ≠ []
  decimal : ∀ c ∈ cs, isDecimal c = true
  number : decimalNumber cs = n

/-! ## Single characters

What the reader makes of one character, before it looks at the whole. -/

/-- The code points of the blanks. -/
def blankCodes : List Nat :=
  [9, 10, 11, 12, 13, 28, 29, 30, 31, 32, 0x85, 0xA0, 0x1680, 0x2000, 0x2001, 0x2002, 0x2003,
    0x2004, 0x2005, 0x2006, 0x2007, 0x2008, 0x2009, 0x200A, 0x2028, 0x2029, 0x202F, 0x205F, 0x3000]

/-- A blank has one of these codes. -/
theorem mem_blankCodes {c : Char} (h : isBlank c = true) : c.toNat ∈ blankCodes := by
  simp only [isBlank, Bool.or_eq_true, Bool.and_eq_true, decide_eq_true_eq, beq_iff_eq] at h
  simp only [blankCodes, List.mem_cons, List.not_mem_nil, or_false]
  omega

/-- No digit of any script is blank, nor is any further digit. -/
theorem isBlank_of_isDigit {c : Char} (h : isDigit c = true) : isBlank c = false := by
  have hall : ∀ n ∈ blankCodes, isDigit (Char.ofNat n) = false := by decide +kernel
  rw [Bool.eq_false_iff]
  intro hblank
  have hnone := hall c.toNat (mem_blankCodes hblank)
  rw [Char.ofNat_toNat, h] at hnone
  cases hnone

/-- A digit of the ASCII set is a digit of some script, of the same value. -/
theorem digitValue?_of_isDigit {c : Char} (h : c.isDigit = true) :
    digitValue? c = some (c.toNat - 48) := by
  have hrange : '0' ≤ c ∧ c ≤ '9' := by
    rw [Char.isDigit, Bool.and_eq_true, decide_eq_true_eq, decide_eq_true_eq] at h
    exact h
  rw [digitValue?, if_pos hrange]

/-- The value of a digit is below ten: digits come in runs of ten, of which the first is zero. -/
theorem digitValue?_lt {c : Char} {d : Nat} (h : digitValue? c = some d) : d < 10 := by
  unfold digitValue? at h
  split at h
  · next hascii =>
    cases h
    have hrange : 48 ≤ c.toNat ∧ c.toNat ≤ 57 := hascii
    omega
  · split at h
    · cases h
    · obtain ⟨first, hfirst, rfl⟩ := Option.map_eq_some_iff.mp h
      have hrun := List.find?_some hfirst
      simp only [Bool.and_eq_true, decide_eq_true_eq] at hrun
      omega

/-- The reader takes a decimal digit of any script as the ASCII digit of the same value. -/
theorem numeralChar_of_digitValue? {c : Char} {d : Nat} (h : digitValue? c = some d) :
    numeralChar c = Char.ofNat (48 + d) := by
  have hblank : isBlank c = false :=
    isBlank_of_isDigit (by rw [isDigit, isDecimal, h]; rfl)
  by_cases hascii : c.toNat < 127
  · rw [numeralChar, if_pos hascii]
    unfold digitValue? at h
    split at h
    · next hrange =>
      cases h
      have hlow : 48 ≤ c.toNat := hrange.1
      rw [show 48 + (c.toNat - 48) = c.toNat by omega, Char.ofNat_toNat]
    · rw [if_pos (by omega)] at h
      cases h
  · simp only [numeralChar, if_neg hascii, hblank, Bool.false_eq_true, if_false, h]

/-- A further digit is taken as a character that stands for nothing. -/
theorem numeralChar_of_sign {c : Char} (hdigit : isDigit c = true) (hsign : isDecimal c = false) :
    numeralChar c = '?' := by
  have hbeyond : ¬ c.toNat < 127 := by
    rw [isDigit, hsign, Bool.false_or, Bool.and_eq_true, decide_eq_true_eq] at hdigit
    omega
  have hnone : digitValue? c = none := by
    rwa [isDecimal, Option.isSome_eq_false_iff, Option.isNone_iff_eq_none] at hsign
  simp only [numeralChar, if_neg hbeyond, isBlank_of_isDigit hdigit, Bool.false_eq_true, if_false,
    hnone]

/-- What the reader makes of a digit is no blank and no sign. -/
theorem numeralChar_of_isDigit {c : Char} (h : isDigit c = true) :
    isAsciiBlank (numeralChar c) = false ∧ numeralChar c ≠ '-' ∧ numeralChar c ≠ '+' ∧
      isDigitTo 10 (numeralChar c) = isDecimal c := by
  cases hvalue : digitValue? c with
  | some d =>
    have hall : ∀ d < 10, isAsciiBlank (Char.ofNat (48 + d)) = false ∧ Char.ofNat (48 + d) ≠ '-' ∧
        Char.ofNat (48 + d) ≠ '+' ∧ isDigitTo 10 (Char.ofNat (48 + d)) = true := by decide
    rw [numeralChar_of_digitValue? hvalue, isDecimal, hvalue]
    exact hall d (digitValue?_lt hvalue)
  | none =>
    have hsign : isDecimal c = false := by rw [isDecimal, hvalue]; rfl
    rw [numeralChar_of_sign h hsign, hsign]
    decide

/-- The value of a decimal digit is that of the character the reader makes of it. -/
theorem hexDigitValue?_numeralChar {c : Char} (h : isDecimal c = true) :
    hexDigitValue? (numeralChar c) = digitValue? c := by
  have hall : ∀ d < 10, hexDigitValue? (Char.ofNat (48 + d)) = some d := by decide
  obtain ⟨d, hvalue⟩ := Option.isSome_iff_exists.mp h
  rw [numeralChar_of_digitValue? hvalue, hvalue, hall d (digitValue?_lt hvalue)]

/-! ## Runs of digits

A run is read character by character, and nothing is lost on the way. -/

section Runs

variable {s : String}

/-- Nothing is cut off a run of digits before it is read. -/
theorem numeralChars_eq (h : ∀ c ∈ s.toList, isDigit c = true) :
    numeralChars s = s.toList.map numeralChar := by
  have hkept : ∀ cs : List Char, (∀ c ∈ cs, isAsciiBlank c = false) →
      cs.dropWhile isAsciiBlank = cs := by
    intro cs hcs
    cases cs with
    | nil => rfl
    | cons c rest => rw [List.dropWhile_cons_of_neg (by simp [hcs c List.mem_cons_self])]
  have hread : ∀ c ∈ s.toList.map numeralChar, isAsciiBlank c = false :=
    List.forall_mem_map.mpr fun c hc => (numeralChar_of_isDigit (h c hc)).1
  rw [numeralChars, withoutBlanks, hkept _ hread,
    hkept _ fun c hc => hread c (List.mem_reverse.mp hc), List.reverse_reverse]

/-- A run of digits has no sign in front and no mark of a base. -/
theorem signOf_eq (h : ∀ c ∈ s.toList, isDigit c = true) :
    signOf (s.toList.map numeralChar) = (false, s.toList.map numeralChar) := by
  cases hs : s.toList with
  | nil => rfl
  | cons c rest =>
    obtain ⟨-, hminus, hplus, -⟩ := numeralChar_of_isDigit (h c (hs ▸ List.mem_cons_self))
    rw [List.map_cons, signOf]
    · intro tail heq
      exact hminus (List.cons.inj heq).1
    · intro tail heq
      exact hplus (List.cons.inj heq).1

/-- Decimal numerals have no mark of their base. -/
theorem withoutBaseMark_ten (cs : List Char) : withoutBaseMark 10 cs = cs := by
  unfold withoutBaseMark
  split
  · exact if_neg (by simp [baseMark?])
  · rfl

/-- Each decimal digit is taken, and their number is the one they denote. -/
theorem numberTo_numeralChars {cs : List Char} (h : ∀ c ∈ cs, isDecimal c = true) :
    numberTo 10 (cs.map numeralChar) = decimalNumber cs := by
  rw [numberTo, decimalNumber, List.foldl_map]
  refine List.foldl_ext _ _ _ fun n c hc => ?_
  rw [hexDigitValue?_numeralChar (h c hc)]

/-- **A decimal numeral is read as the number it denotes**, unless it has too many digits. -/
theorem integerTo_of_denotes {n : Nat} (h : Denotes s.toList n) :
    integerTo 10 s = if digitLimit < s.toList.length then
      .error (.tooManyDigits s.toList.length) else .ok n := by
  have hdigits : ∀ c ∈ s.toList, isDigit c = true := fun c hc => by
    rw [isDigit, h.decimal c hc, Bool.true_or]
  have htake : (s.toList.map numeralChar).takeWhile (isDigitTo 10) = s.toList.map numeralChar :=
    List.takeWhile_eq_self_iff.mpr (List.forall_mem_map.mpr fun c hc => by
      rw [(numeralChar_of_isDigit (hdigits c hc)).2.2.2, h.decimal c hc])
  have hfilled : s.toList.map numeralChar ≠ [] := by simpa using h.filled
  simp only [integerTo, numeralChars_eq hdigits, signOf_eq hdigits, withoutBaseMark_ten, htake,
    List.length_map, numberTo_numeralChars h.decimal, h.number, hfilled, Nat.lt_irrefl, or_self,
    true_and, Bool.false_eq_true, if_false]

/-- **A run with a digit that has no value is no integer.** -/
theorem integerTo_of_sign (hdigits : ∀ c ∈ s.toList, isDigit c = true) {c : Char}
    (hc : c ∈ s.toList) (hsign : isDecimal c = false) : ∃ fault, integerTo 10 s = .error fault := by
  -- the reader stops at that digit, so that it has fewer characters than there are
  have hshort : ((s.toList.map numeralChar).takeWhile (isDigitTo 10)).length <
      (s.toList.map numeralChar).length := by
    have hfront := List.takeWhile_prefix (isDigitTo 10) (l := s.toList.map numeralChar)
    refine Nat.lt_of_le_of_ne hfront.length_le fun hlength => ?_
    have hall := List.takeWhile_eq_self_iff.mp (hfront.eq_of_length hlength)
    have hdecimal := hall _ (List.mem_map_of_mem hc)
    rw [(numeralChar_of_isDigit (hdigits c hc)).2.2.2, hsign] at hdecimal
    cases hdecimal
  simp only [integerTo, numeralChars_eq hdigits, signOf_eq hdigits, withoutBaseMark_ten, hshort,
    or_true, if_true]
  split
  · exact ⟨_, rfl⟩
  · exact ⟨_, rfl⟩

end Runs

end NewsSearch.Text
