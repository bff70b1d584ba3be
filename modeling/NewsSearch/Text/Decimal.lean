import NewsSearch.Number.Binary64
import NewsSearch.Text.Integer

/-!
Decimal numbers as text.

A decimal number may have blanks around it and a sign before it.  It has digits, of which some may
stand behind a point, and perhaps an exponent; or it is one of the words for infinity and for what
is no number.  The double nearest to it is its value.
-/

namespace NewsSearch.Text

open Number

/-- The words for infinity, in small letters. -/
def infinityWords : List String := ["inf", "infinity"]

/-- The word for what is no number, in small letters. -/
def notANumberWord : String := "nan"

/-- The exponent that ends a decimal number, if there is one. -/
def exponent? : List Char → Option Int
  | [] => some 0
  | e :: rest =>
    let (negative, digits) := signOf rest
    if e.toLower = 'e' ∧ digits ≠ [] ∧ digits.all Char.isDigit then
      let size : Int := numberTo 10 digits
      some (if negative then -size else size)
    else none

/-- The decimal number without a sign that digits, perhaps a point, and perhaps an exponent
    denote. -/
def digitsDecimal? (negative : Bool) (cs : List Char) : Option Float :=
  let whole := cs.takeWhile Char.isDigit
  let (fraction, rest) := match cs.dropWhile Char.isDigit with
    | '.' :: rest => (rest.takeWhile Char.isDigit, rest.dropWhile Char.isDigit)
    | rest => ([], rest)
  if whole = [] ∧ fraction = [] then none
  else
    (exponent? rest).map fun exponent =>
      ofDecimal negative (numberTo 10 (whole ++ fraction)) (exponent - fraction.length)

/-- The decimal number that a text denotes. -/
def decimal? (s : String) : Option Float :=
  let (negative, body) := signOf (numeralChars s)
  let word := String.ofList (body.map Char.toLower)
  if infinityWords.contains word then some (infinity negative)
  else if word = notANumberWord then some notANumber
  else digitsDecimal? negative body

example : (decimal? "").isSome = false := by decide +kernel
example : (decimal? "1e").isSome = false := by decide +kernel
example : (decimal? ".").isSome = false := by decide +kernel
example : (decimal? " +.5E3 ").isSome = true := by decide +kernel

end NewsSearch.Text
