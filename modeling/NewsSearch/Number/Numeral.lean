/-!
Decimal numerals of whole numbers.

The numeral of a natural number has no leading zero; a negative number has a minus sign in front.
-/

namespace NewsSearch.Number

/-- The decimal digits of `n`, the most significant first. -/
def natDigits (n : Nat) : List Char := Nat.toDigits 10 n

/-- The decimal digits of `n` behind enough zeros to fill `width` places. -/
def paddedDigits (width n : Nat) : List Char :=
  let ds := natDigits n
  List.replicate (width - ds.length) '0' ++ ds

/-- The numeral of an integer. -/
def intDigits (n : Int) : List Char :=
  if n < 0 then '-' :: natDigits n.natAbs else natDigits n.natAbs

/-- The numeral of an integer as text. -/
def intText (n : Int) : String := String.ofList (intDigits n)

/-- The numeral of a natural number as text. -/
def natText (n : Nat) : String := String.ofList (natDigits n)

example : intText (-120) = "-120" := by decide
example : paddedDigits 2 7 = ['0', '7'] := by decide

end NewsSearch.Number
