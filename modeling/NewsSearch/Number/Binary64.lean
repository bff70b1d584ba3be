import NewsSearch.Number.Power

/-!
Double-precision numbers, taken apart and put together in exact arithmetic.

A finite double is a sign and a magnitude `significand * 2 ^ exponent`.  `parts` reads the three
from the bit pattern, and `nearestBits?` goes the other way: it gives the pattern of the double
nearest to a quotient of natural numbers, a tie going to the even significand.  Decimal text and
integers become doubles through it, so every conversion is correctly rounded by one rule.
-/

namespace NewsSearch.Number

/-- What a double-precision number is. -/
inductive Parts where
  /-- Not a number. -/
  | nan
  /-- An infinity and its sign. -/
  | infinite (negative : Bool)
  /-- The number `± significand * 2 ^ exponent`. -/
  | finite (negative : Bool) (significand : Nat) (exponent : Int)
  deriving DecidableEq, Repr

/-- The number whose 64-bit pattern is `bits`. -/
def Parts.ofBits (bits : Nat) : Parts :=
  let negative := bits / pow2 63 % 2 == 1
  let biased : Nat := bits / pow2 52 % pow2 11
  let fraction := bits % pow2 52
  if biased == 0x7FF then if fraction == 0 then .infinite negative else .nan
  else if biased == 0 then .finite negative fraction (-1074)
  else .finite negative (pow2 52 + fraction) ((biased : Int) - 1075)

/-- What the double `x` is. -/
def parts (x : Float) : Parts := Parts.ofBits x.toBits.toNat

/-- The whole number nearest to `num / den`, a tie going to the even one. -/
def roundDiv (num den : Nat) : Nat :=
  let low := num / den
  let rest := num % den
  if 2 * rest < den then low
  else if den < 2 * rest then low + 1
  else low + low % 2

/-- The exponent of the unit in which the quotient `num / den` is rounded: the quotient has 53 bits
    before that unit, or the unit is the smallest there is. -/
def unitExponent (num den : Nat) : Int :=
  let guess : Int := (Nat.log2 num : Int) - Nat.log2 den - 53
  -- The quotient lies between 2 ^ (guess + 52) and 2 ^ (guess + 54).
  let exponent := if num * pow2 (-(guess + 53)).toNat < den * pow2 (guess + 53).toNat
    then guess else guess + 1
  max exponent (-1074)

/-- The bit pattern of the double nearest to `num / den`; `none` when that is beyond the largest
    double. -/
def nearestBits? (num den : Nat) : Option Nat :=
  if num == 0 then some 0
  else
    let exponent := unitExponent num den
    let significand := roundDiv (num * pow2 (-exponent).toNat) (den * pow2 exponent.toNat)
    let bits := (exponent + 1074).toNat * pow2 52 + significand
    if bits < 0x7FF * pow2 52 then some bits else none

/-- The double with this pattern and sign. -/
def signed (negative : Bool) (bits : Nat) : Float :=
  Float.ofBits (UInt64.ofNat (if negative then pow2 63 + bits else bits))

/-- The infinity with this sign. -/
def infinity (negative : Bool) : Float := signed negative (0x7FF * pow2 52)

/-- The double that is no number. -/
def notANumber : Float := signed false (0x7FF8 * pow2 48)

/-- The double nearest to an integer; `none` when the integer is beyond the largest double. -/
def ofInt? (n : Int) : Option Float := (nearestBits? n.natAbs 1).map (signed (n < 0))

/-- The double nearest to `± digits * 10 ^ exponent`; a number beyond the largest double becomes an
    infinity.  An exponent far outside the range of doubles decides the answer by itself. -/
def ofDecimal (negative : Bool) (digits : Nat) (exponent : Int) : Float :=
  let size : Int := exponent + (Nat.toDigits 10 digits).length
  if digits == 0 || size < -400 then signed negative 0
  else if 400 < size then infinity negative
  else
    match nearestBits? (digits * pow10 exponent.toNat) (pow10 (-exponent).toNat) with
    | some bits => signed negative bits
    | none => infinity negative

/-- Whether a double and an integer are the same number. -/
def equalsInt (x : Float) (n : Int) : Bool :=
  match parts x with
  | .finite negative m e =>
    (if negative then -(m : Int) else m) * pow2 e.toNat == n * pow2 (-e).toNat
  | _ => false

example : nearestBits? 1 1 = some 0x3FF0000000000000 := by decide
example : nearestBits? 1 10 = some 0x3FB999999999999A := by decide
example : nearestBits? (pow2 53 + 1) 1 = nearestBits? (pow2 53) 1 := by decide
example : nearestBits? 5 (pow10 324) = some 1 := by decide +kernel
example : nearestBits? (pow2 1024) 1 = none := by decide +kernel

end NewsSearch.Number
