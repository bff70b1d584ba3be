import NewsSearch.Number.Numeral
import NewsSearch.Text.Blank
import NewsSearch.Text.Digit
import NewsSearch.Text.Hex
import NewsSearch.Text.Quoted

/-!
Integers as text, to a base.

An integer may have blanks around it and a sign before it.  Its digits may be those of any script,
and to the bases two, eight and sixteen they may begin with the mark of the base, such as `0x`.
Outside ASCII every blank counts as a space and everything that is no digit as a character that
stands for nothing.  To the base ten there is a limit on the number of digits, which is judged
before what follows them.

Integers that stand inside longer texts, such as the hours of a time, are read from their characters
by `integerOf?`.  These are ASCII, and underscores may part their digits.
-/

namespace NewsSearch.Text

/-- Why a text denotes no integer. -/
inductive IntegerFault where
  | invalid (base : Nat) (text : String)
  | tooManyDigits (digits : Nat)
  deriving DecidableEq, Repr

/-- The most digits that an integer to the base ten may have. -/
def digitLimit : Nat := 4300

/-- The wording of an integer fault; of a long text only the beginning is shown. -/
def IntegerFault.message : IntegerFault → String
  | invalid base text =>
    let shown := String.ofList ((quoted text).toList.take 200)
    s!"invalid literal for int() with base {Number.natText base}: {shown}"
  | tooManyDigits digits =>
    s!"Exceeds the limit ({Number.natText digitLimit} digits) for integer string conversion: " ++
      s!"value has {Number.natText digits} digits; " ++
      "use sys.set_int_max_str_digits() to increase the limit"

/-- Blanks of the ASCII set. -/
def isAsciiBlank (c : Char) : Bool := c = ' ' || (9 ≤ c.toNat && c.toNat ≤ 13)

/-- The character of a numeral that stands for a character of any script. -/
def numeralChar (c : Char) : Char :=
  if c.toNat < 127 then c
  else if isBlank c then ' '
  else
    match digitValue? c with
    | some d => Char.ofNat (48 + d)
    | none => '?'

/-- The characters without the ASCII blanks around them. -/
def withoutBlanks (cs : List Char) : List Char :=
  ((cs.dropWhile isAsciiBlank).reverse.dropWhile isAsciiBlank).reverse

/-- The characters of a numeral, without the blanks around it. -/
def numeralChars (s : String) : List Char := withoutBlanks (s.toList.map numeralChar)

/-- Whether a numeral begins with a minus sign, and what follows its sign. -/
def signOf : List Char → Bool × List Char
  | '-' :: rest => (true, rest)
  | '+' :: rest => (false, rest)
  | cs => (false, cs)

/-- The letter that marks a base. -/
def baseMark? (base : Nat) : Option Char :=
  if base = 2 then some 'b' else if base = 8 then some 'o' else if base = 16 then some 'x' else none

/-- The digits of a numeral without the mark of the base. -/
def withoutBaseMark (base : Nat) : List Char → List Char
  | '0' :: c :: rest => if some c.toLower = baseMark? base then rest else '0' :: c :: rest
  | cs => cs

/-- Whether the character is a digit to a base. -/
def isDigitTo (base : Nat) (c : Char) : Bool :=
  match hexDigitValue? c with
  | some d => d < base
  | none => false

/-- The number that digits to a base denote. -/
def numberTo (base : Nat) (digits : List Char) : Nat :=
  digits.foldl (fun n c => base * n + (hexDigitValue? c).getD 0) 0

/-- The integer that a text denotes to a base. -/
def integerTo (base : Nat) (s : String) : Except IntegerFault Int :=
  let (negative, body) := signOf (numeralChars s)
  let body := withoutBaseMark base body
  let digits := body.takeWhile (isDigitTo base)
  if base = 10 ∧ digitLimit < digits.length then .error (.tooManyDigits digits.length)
  else if digits = [] ∨ digits.length < body.length then .error (.invalid base s)
  else
    let size : Int := numberTo base digits
    .ok (if negative then -size else size)

/-! ## Integers inside texts -/

/-- A run of digits without the underscores in it.  Each underscore must have a digit on either
    side, and there must be a digit. -/
def digitRun? : List Char → Option (List Char)
  | [] => none
  | [c] => if c.isDigit then some [c] else none
  | c :: '_' :: rest => if c.isDigit then (digitRun? rest).map (c :: ·) else none
  | c :: rest => if c.isDigit then (digitRun? rest).map (c :: ·) else none

/-- The integer that ASCII characters denote to the base ten: a run of digits, perhaps with a sign
    before it and blanks around it. -/
def integerOf? (cs : List Char) : Option Int :=
  let (negative, body) := signOf (withoutBlanks cs)
  (digitRun? body).map fun digits =>
    let size : Int := numberTo 10 digits
    if negative then -size else size

example : (integerTo 10 " -42\n").toOption = some (-42) := by decide +kernel
example : (integerTo 16 "0x1F").toOption = some 31 := by decide +kernel
example : (integerTo 8 "08").toOption = none := by decide +kernel
example : (integerTo 10 "٤٢").toOption = some 42 := by decide +kernel
example : (integerTo 10 "").toOption = none := by decide +kernel
example : integerOf? " 5".toList = some 5 := by decide +kernel
example : integerOf? "0_5".toList = some 5 := by decide +kernel
example : integerOf? "+ 5".toList = none := by decide +kernel

end NewsSearch.Text
