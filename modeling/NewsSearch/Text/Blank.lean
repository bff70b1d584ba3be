/-!
Blank characters, trimming and lines.

A blank is a space, a tab, a line or paragraph break, an information separator or one of the wider
spaces.  Zero-width characters and the byte-order mark are not blank.  Trimming removes blanks at
the ends and is stated on lists of characters, so that its laws follow from those of `dropWhile`.
-/

namespace NewsSearch.Text

/-- Blank characters: what trimming removes. -/
def isBlank (c : Char) : Bool :=
  (9 ≤ c.toNat && c.toNat ≤ 13) || (28 ≤ c.toNat && c.toNat ≤ 32) ||
  c.toNat == 0x85 || c.toNat == 0xA0 || c.toNat == 0x1680 ||
  (0x2000 ≤ c.toNat && c.toNat ≤ 0x200A) || c.toNat == 0x2028 || c.toNat == 0x2029 ||
  c.toNat == 0x202F || c.toNat == 0x205F || c.toNat == 0x3000

/-- The characters without the blanks at the end. -/
def trimEnd (cs : List Char) : List Char := (cs.reverse.dropWhile isBlank).reverse

/-- The characters without the blanks at either end. -/
def trim (cs : List Char) : List Char := trimEnd (cs.dropWhile isBlank)

/-- The text without the blanks at either end. -/
def strip (s : String) : String := String.ofList (trim s.toList)

/-- The text without the blanks at its end. -/
def stripEnd (s : String) : String := String.ofList (trimEnd s.toList)

/-- Whether the text has nothing but blanks. -/
def isBlankText (s : String) : Bool := s.toList.all isBlank

/-- Characters at which a text is cut into lines. -/
def isLineBreak (c : Char) : Bool :=
  (10 ≤ c.toNat && c.toNat ≤ 13) || (28 ≤ c.toNat && c.toNat ≤ 30) ||
  c.toNat == 0x85 || c.toNat == 0x2028 || c.toNat == 0x2029

/-- The lines of a text, where `line` holds the characters of the current line, last first, and
    `started` tells whether there is a current line at all.  A carriage return and the line feed
    after it end one line together, and a break at the very end starts no further line. -/
def linesFrom : Bool → List Char → List Char → List (List Char)
  | started, line, [] => if started then [line.reverse] else []
  | _, line, '\r' :: '\n' :: rest => line.reverse :: linesFrom false [] rest
  | _, line, c :: rest =>
    if isLineBreak c then line.reverse :: linesFrom false [] rest
    else linesFrom true (c :: line) rest

/-- The lines of a text, without their breaks. -/
def lines (s : String) : List String := (linesFrom false [] s.toList).map String.ofList

/-! ## Laws of trimming -/

/-- What begins with a non-blank character loses nothing at the front. -/
theorem dropWhile_isBlank_eq_self {cs : List Char}
    (h : ∀ c, cs.head? = some c → isBlank c = false) :
    cs.dropWhile isBlank = cs := by
  cases cs with
  | nil => rfl
  | cons c rest => simp [List.dropWhile, h c rfl]

/-- Dropping leading blanks leaves a list that does not start with one. -/
theorem head?_dropWhile_isBlank {cs : List Char} {c : Char}
    (h : (cs.dropWhile isBlank).head? = some c) : isBlank c = false := by
  induction cs with
  | nil => simp at h
  | cons d rest ih =>
    by_cases hd : isBlank d = true
    · rw [List.dropWhile_cons_of_pos hd] at h; exact ih h
    · rw [List.dropWhile_cons_of_neg hd] at h
      simp only [List.head?_cons, Option.some.injEq] at h
      subst h
      simpa using hd

/-- Trimming nothing gives nothing. -/
@[simp] theorem trim_nil : trim [] = [] := rfl

example : strip " a b\u3000" = "a b" := by decide +kernel
example : strip "\u200ba" = "\u200ba" := by decide +kernel
example : lines "a\r\nb\n" = ["a", "b"] := by decide +kernel
example : lines "a\n\nb" = ["a", "", "b"] := by decide +kernel

end NewsSearch.Text
