/-!
Code points.

A text is a row of code points: characters, and surrogates.  Texts that travel in units of sixteen
bits write a character above `U+FFFF` as a pair of surrogates, and nothing keeps them from holding
one half of a pair alone; such a half is no character.

Inside a `String` a surrogate is written as two characters: a mark, and the character whose code is
`0x100000` higher.  The mark is the last code of all, which is assigned to no character, and it is
written twice when a text holds it nevertheless.  So every character but the mark stands for itself.
`codePoints` undoes `written`, which is what `codePoints_written` says.
-/

namespace NewsSearch.Text

/-- An element of a text. -/
inductive CodePoint where
  | char (c : Char)
  /-- One half of a pair, by its code. -/
  | surrogate (code : Nat)
  deriving DecidableEq, Repr

/-! ## Surrogates as characters -/

/-- The mark before a surrogate. -/
def surrogateMark : Char := Char.ofNat 0x10ffff

/-- The distance from a surrogate to the character that stands for it behind the mark. -/
def surrogateShift : Nat := 0x100000

/-- The character that stands for the surrogate of a code. -/
def ofSurrogate (code : Nat) : Char := Char.ofNat (code + surrogateShift)

/-- The code of the surrogate for which a character stands behind the mark. -/
def surrogate? (c : Char) : Option Nat :=
  if 0x10d800 ≤ c.toNat ∧ c.toNat ≤ 0x10dfff then some (c.toNat - surrogateShift) else none

/-- Standing for a surrogate is undone by asking for it. -/
theorem surrogate?_ofSurrogate {code : Nat} (low : 0xd800 ≤ code) (high : code ≤ 0xdfff) :
    surrogate? (ofSurrogate code) = some code := by
  have code_eq : (ofSurrogate code).toNat = code + surrogateShift := by
    have valid : (code + surrogateShift).isValidChar := by
      unfold surrogateShift Nat.isValidChar; omega
    rw [ofSurrogate, Char.ofNat, dif_pos valid]
    rfl
  have undo : code + surrogateShift - surrogateShift = code := by omega
  have inRange : 0x10d800 ≤ code + surrogateShift ∧ code + surrogateShift ≤ 0x10dfff := by
    unfold surrogateShift; omega
  rw [surrogate?, code_eq, if_pos inRange, undo]

/-- The mark stands for no surrogate. -/
theorem surrogate?_mark : surrogate? surrogateMark = none := by decide

namespace CodePoint

/-- The code point of a code below `0x110000`. -/
def ofCode (code : Nat) : CodePoint :=
  if 0xd800 ≤ code ∧ code ≤ 0xdfff then surrogate code else char (Char.ofNat code)

/-- The code of a code point. -/
def code : CodePoint → Nat
  | char c => c.toNat
  | surrogate code => code

/-- Whether a code point is what it says: the code of a surrogate is one. -/
def IsProper : CodePoint → Prop
  | char _ => True
  | surrogate code => 0xd800 ≤ code ∧ code ≤ 0xdfff

/-- The characters with which a code point is written inside a `String`. -/
def written : CodePoint → List Char
  | char c => if c = surrogateMark then [surrogateMark, surrogateMark] else [c]
  | surrogate code => [surrogateMark, ofSurrogate code]

/-- The code point that a character stands for behind the mark. -/
def afterMark (c : Char) : CodePoint :=
  match surrogate? c with
  | some code => surrogate code
  | none => char c

end CodePoint

/-! ## The code points of a text -/

/-- The code points that characters are the writing of. -/
def codePoints : List Char → List CodePoint
  | [] => []
  | [c] => [.char c]
  | c :: d :: rest =>
    if c = surrogateMark then .afterMark d :: codePoints rest
    else .char c :: codePoints (d :: rest)

/-- The characters with which code points are written. -/
def ofCodePoints (ps : List CodePoint) : List Char := ps.flatMap CodePoint.written

/-- A code point that was written before others is found first. -/
theorem codePoints_written_append {p : CodePoint} (proper : p.IsProper) (rest : List Char) :
    codePoints (p.written ++ rest) = p :: codePoints rest := by
  cases p with
  | char c =>
    by_cases isMark : c = surrogateMark
    · subst isMark
      simp [CodePoint.written, codePoints, CodePoint.afterMark, surrogate?_mark]
    · cases rest <;> simp [CodePoint.written, codePoints, isMark]
  | surrogate code =>
    obtain ⟨low, high⟩ := proper
    rw [CodePoint.written, List.cons_append, List.cons_append, List.nil_append, codePoints,
      if_pos rfl, CodePoint.afterMark, surrogate?_ofSurrogate low high]

/-- Writing code points is undone by asking for them. -/
theorem codePoints_ofCodePoints {ps : List CodePoint} (proper : ∀ p ∈ ps, p.IsProper) :
    codePoints (ofCodePoints ps) = ps := by
  induction ps with
  | nil => rfl
  | cons p rest ih =>
    rw [ofCodePoints, List.flatMap_cons, codePoints_written_append (proper p List.mem_cons_self)]
    exact congrArg _ (ih fun q hq => proper q (List.mem_cons_of_mem p hq))

/-- Without the mark every character stands for itself. -/
theorem codePoints_eq_map {cs : List Char} (unmarked : ∀ c ∈ cs, c ≠ surrogateMark) :
    codePoints cs = cs.map .char := by
  induction cs with
  | nil => rfl
  | cons c rest ih =>
    have others : ∀ d ∈ rest, d ≠ surrogateMark := fun d hd =>
      unmarked d (List.mem_cons_of_mem c hd)
    have here : c ≠ surrogateMark := unmarked c List.mem_cons_self
    cases rest with
    | nil => rfl
    | cons d more =>
      rw [codePoints, if_neg here, ih others]
      rfl

/-- The number of code points in a text. -/
def pointCount (cs : List Char) : Nat := (codePoints cs).length

/-! ## Texts -/

/-- The text of code points. -/
def textOf (ps : List CodePoint) : String := String.ofList (ofCodePoints ps)

/-- The text whose code points are the characters of a `String`. -/
def ofCharacters (s : String) : String := textOf (s.toList.map .char)

/-- The characters of a text, without its surrogates. -/
def toCharacters (s : String) : String :=
  String.ofList ((codePoints s.toList).filterMap fun
    | .char c => some c
    | .surrogate _ => none)

/-- The codes of a text. -/
def codes (s : String) : List Nat := (codePoints s.toList).map (·.code)

/-- Whether codes come no later than others: the first difference decides, and of two rows that
    differ in length alone the shorter one comes first. -/
def noLater : List Nat → List Nat → Bool
  | [], _ => true
  | _ :: _, [] => false
  | a :: as, b :: bs => Nat.blt a b || (a == b && noLater as bs)

/-- The texts in the order of their codes. -/
def sorted (texts : List String) : List String :=
  texts.mergeSort fun a b => noLater (codes a) (codes b)

example : codePoints [surrogateMark, ofSurrogate 0xd800, 'a'] = [.surrogate 0xd800, .char 'a'] := by
  decide +kernel
example : noLater [97] [97, 98] && !noLater [98] [97, 99] := by decide
example : codes "ab" = [97, 98] := by decide +kernel

end NewsSearch.Text
