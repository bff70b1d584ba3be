import NewsSearch.Text.Integer

/-!
What an unquoted scalar is written like.

An unquoted scalar is nothing, a truth value, an integer, a decimal number, or a day or a moment
when it is written like one, and a text otherwise.  Two marks have a meaning of their own: the one
that merges mappings and the one that stands for a default value.  A line end behind the scalar does
not count.

`ScalarKind.ofPlain` looks at the spelling only; whether the text has a value of its kind is another
question.
-/

namespace NewsSearch.Yaml

open Text

/-- What a scalar is taken for. -/
inductive ScalarKind where
  | null
  | bool
  | int
  | float
  /-- A day or a moment. -/
  | stamp
  | text
  /-- Bytes. -/
  | binary
  /-- The key under which a mapping has the mappings that it merges in. -/
  | merge
  /-- The key of a default value. -/
  | value
  deriving DecidableEq, Repr

/-! ## Words -/

/-- The spellings of nothing. -/
def nullWords : List String := ["~", "null", "Null", "NULL"]

/-- The spellings of truth and falsehood. -/
def boolWords : List String := [
  "yes", "Yes", "YES", "true", "True", "TRUE", "on", "On", "ON",
  "no", "No", "NO", "false", "False", "FALSE", "off", "Off", "OFF"]

/-- The spellings of infinity, without a sign. -/
def infinitySpellings : List String := [".inf", ".Inf", ".INF"]

/-- The spellings of what is no number. -/
def notANumberSpellings : List String := [".nan", ".NaN", ".NAN"]

/-! ## Digits -/

/-- The characters without a sign at the beginning. -/
def unsigned : List Char → List Char
  | '-' :: rest => rest
  | '+' :: rest => rest
  | cs => cs

/-- Whether the character is a digit or an underscore. -/
def isDigitMark (c : Char) : Bool := c.isDigit || c = '_'

/-- Whether the characters are digits to a base and underscores, one at least. -/
def areDigitMarks (base : Nat) (cs : List Char) : Bool :=
  !cs.isEmpty && cs.all fun c => c = '_' || isDigitTo base c

/-- Whether the characters are digits and underscores, beginning with a digit. -/
def isNumberLike (cs : List Char) : Bool :=
  match cs with
  | first :: rest => first.isDigit && rest.all isDigitMark
  | [] => false

/-- Whether the characters are one or two digits that denote less than sixty. -/
def isSixtieth (cs : List Char) : Bool :=
  match cs with
  | [ones] => ones.isDigit
  | [tens, ones] => '0' ≤ tens && tens ≤ '5' && ones.isDigit
  | _ => false

/-- The parts of a text between colons. -/
def colonParts (cs : List Char) : List (List Char) :=
  cs.foldr (fun c parts =>
    match parts with
    | part :: rest => if c = ':' then [] :: part :: rest else (c :: part) :: rest
    | [] => [[c]]) [[]]

/-- Whether the characters are a number followed by groups of less than sixty, each behind a
    colon. -/
def isSixtyBased (cs : List Char) : Bool :=
  match colonParts cs with
  | lead :: groups => isNumberLike lead && groups.all isSixtieth
  | [] => false

/-! ## Integers -/

/-- Whether the characters are written like an integer: binary, hexadecimal or, behind a zero, octal
    digits; or decimal digits that do not begin with a zero, perhaps with groups of less than
    sixty. -/
def isIntegerLike (cs : List Char) : Bool :=
  match unsigned cs with
  | ['0'] => true
  | '0' :: 'b' :: digits => areDigitMarks 2 digits
  | '0' :: 'x' :: digits => areDigitMarks 16 digits
  | '0' :: digits => areDigitMarks 8 digits
  | body => isSixtyBased body

/-! ## Decimal numbers -/

/-- Whether the characters are nothing, or an exponent with its sign. -/
def isExponentLike : List Char → Bool
  | [] => true
  | e :: mark :: digits =>
    (e = 'e' || e = 'E') && (mark = '+' || mark = '-') && !digits.isEmpty && digits.all Char.isDigit
  | _ => false

/-- Whether the characters are digits with a point among them, and perhaps an exponent. -/
def isPointed (cs : List Char) : Bool :=
  match cs.dropWhile isDigitMark with
  | '.' :: rest =>
    isNumberLike (cs.takeWhile isDigitMark) && isExponentLike (rest.dropWhile isDigitMark)
  | _ => false

/-- Whether the characters are a point, digits and perhaps an exponent. -/
def isFractionLike (cs : List Char) : Bool :=
  match cs with
  | '.' :: rest =>
    isNumberLike (rest.takeWhile isDigitMark) && isExponentLike (rest.dropWhile isDigitMark)
  | _ => false

/-- Whether the characters are groups of less than sixty behind a number, the last of them with a
    point and perhaps further digits. -/
def isSixtyBasedDecimal (cs : List Char) : Bool :=
  let front := cs.takeWhile (· ≠ '.')
  match cs.dropWhile (· ≠ '.') with
  | '.' :: fraction => front.contains ':' && isSixtyBased front && fraction.all isDigitMark
  | _ => false

/-- Whether the characters are written like a decimal number.  A number that begins with a point has
    no sign. -/
def isDecimalLike (cs : List Char) : Bool :=
  let body := unsigned cs
  isPointed body || isFractionLike cs || isSixtyBasedDecimal body ||
    infinitySpellings.contains (String.ofList body) ||
    notANumberSpellings.contains (String.ofList cs)

/-! ## Days and moments -/

/-- The number that one or two digits denote, and what follows them. -/
def oneOrTwoDigits? : List Char → Option (Nat × List Char)
  | a :: rest =>
    if !a.isDigit then none
    else
      let first := a.toNat - 48
      match rest with
      | b :: rest => some (if b.isDigit then (10 * first + (b.toNat - 48), rest) else (first, b :: rest))
      | [] => some (first, [])
  | [] => none

/-- What follows an expected character. -/
def after? (c : Char) : List Char → Option (List Char)
  | d :: rest => if c = d then some rest else none
  | [] => none

/-- Whether the character separates words on a line. -/
def isGap (c : Char) : Bool := c = ' ' || c = '\t'

/-- The offset from universal time that ends a moment, in seconds; the outer `none` when something
    else stands there. -/
def offset? (cs : List Char) : Option (Option Int) :=
  match cs.dropWhile isGap with
  | [] => if cs.isEmpty then some none else none
  | ['Z'] => some (some 0)
  | mark :: rest =>
    if mark = '+' ∨ mark = '-' then do
      let (hours, rest) ← oneOrTwoDigits? rest
      let minutes ← match rest with
        | [] => some 0
        | ':' :: rest => (twoDigits? rest).bind fun (n, rest) => if rest.isEmpty then some n else none
        | _ => none
      let size : Int := (hours * 60 + minutes) * 60
      some (some (if mark = '-' then -size else size))
    else none

/-- The numbers of a time of day; the digits behind the point of its seconds; and its offset. -/
structure Clock where
  hour : Nat
  minute : Nat
  second : Nat
  fraction : List Char
  offset : Option Int

/-- The time of day that ends a moment. -/
def clock? (cs : List Char) : Option Clock := do
  let (hour, cs) ← oneOrTwoDigits? cs
  let (minute, cs) ← (after? ':' cs).bind twoDigits?
  let (second, cs) ← (after? ':' cs).bind twoDigits?
  match cs with
  | '.' :: rest =>
    let offset ← offset? (rest.dropWhile Char.isDigit)
    some ⟨hour, minute, second, rest.takeWhile Char.isDigit, offset⟩
  | rest => do
    let offset ← offset? rest
    some ⟨hour, minute, second, [], offset⟩

/-- A day with a time of day, or a day alone, as numbers. -/
structure Stamp where
  year : Nat
  month : Nat
  day : Nat
  clock : Option Clock

/-- The day or moment that a text names by its numbers. -/
def stamp? (cs : List Char) : Option Stamp := do
  let (century, cs) ← twoDigits? cs
  let (year, cs) ← twoDigits? cs
  let (month, cs) ← (after? '-' cs).bind oneOrTwoDigits?
  let (day, cs) ← (after? '-' cs).bind oneOrTwoDigits?
  let clock ← match cs with
    | [] => some none
    | mark :: rest =>
      if mark = 'T' ∨ mark = 't' then (clock? rest).map some
      else if isGap mark then (clock? (rest.dropWhile isGap)).map some
      else none
  some ⟨100 * century + year, month, day, clock⟩

/-- Whether the characters are written like a day or a moment.  A day alone has two digits for the
    month and for the day. -/
def isStampLike (cs : List Char) : Bool :=
  match stamp? cs with
  | some stamp => stamp.clock.isSome || cs.length = 10
  | none => false

/-! ## Kinds -/

/-- The characters without a line end behind them. -/
def withoutLineEnd (cs : List Char) : List Char :=
  if cs.getLast? = some '\n' then cs.dropLast else cs

namespace ScalarKind

/-- What an unquoted scalar is taken for. -/
def ofPlain (s : String) : ScalarKind :=
  let cs := withoutLineEnd s.toList
  let word := String.ofList cs
  if s = "" ∨ nullWords.contains word then .null
  else if boolWords.contains word then .bool
  else if isDecimalLike cs then .float
  else if isIntegerLike cs then .int
  else if isStampLike cs then .stamp
  else if word = "<<" then .merge
  else if word = "=" then .value
  else .text

end ScalarKind

example : ScalarKind.ofPlain "010" = .int := by decide +kernel
example : ScalarKind.ofPlain "08" = .text := by decide +kernel
example : ScalarKind.ofPlain "-1:30" = .int := by decide +kernel
example : ScalarKind.ofPlain "1:75" = .text := by decide +kernel
example : ScalarKind.ofPlain "1e3" = .text := by decide +kernel
example : ScalarKind.ofPlain "1.e+3" = .float := by decide +kernel
example : ScalarKind.ofPlain "+.5" = .text := by decide +kernel
example : ScalarKind.ofPlain "2024-5-1" = .text := by decide +kernel
example : ScalarKind.ofPlain "2024-5-1 10:00:00" = .stamp := by decide +kernel

end NewsSearch.Yaml
