import NewsSearch.Number.Binary64
import NewsSearch.Number.Numeral

/-!
Doubles as decimal text.

`shortestText` writes the fewest digits that read back as the same double, and among those the
nearest to it.  A number is written positionally, with at least one digit behind the point, while
its decimal exponent lies between -4 and 15, and in scientific notation outside that range.
`twoPlaces` rounds to two digits behind the point instead.

The search works on grids.  The grid for `n` digits consists of the whole multiples of the power of
ten that gives the number `n` digits; if any of its points reads back as the double, one of the two
neighbours of the double does.  So the two neighbours are tried for 1, 2, … 17 digits, and the first
grid with a hit wins.
-/

namespace NewsSearch.Number

/-- Where the decimal point stands: the least `p` with `num / den < 10 ^ p`, for a positive
    quotient. -/
def pointPosition (num den : Nat) : Int :=
  if den ≤ num then (Nat.toDigits 10 (num / den)).length
  else 1 - ((Nat.toDigits 10 ((den + num - 1) / num - 1)).length : Int)

/-- The better of the two neighbours of `significand * 2 ^ exponent` on the multiples of `10 ^ k`,
    in that unit, if one of them reads back.  A neighbour reads back when it lies between the
    midpoints to the adjacent doubles; the midpoints themselves do for an even significand.  A tie
    goes to the even neighbour. -/
def neighbour? (significand : Nat) (exponent k : Int) : Option Nat :=
  -- All quantities are measured in quarters of the unit `2 ^ exponent`.
  let scale := pow2 (exponent - 2).toNat * pow10 (-k).toNat
  let step := pow2 (2 - exponent).toNat * pow10 k.toNat
  let value := 4 * significand * scale
  let below := if significand == pow2 52 && -1074 < exponent then 1 else 2
  let least := (4 * significand - below) * scale
  let greatest := (4 * significand + 2) * scale
  let readsBack (c : Nat) : Bool :=
    if significand % 2 == 0 then least ≤ c * step && c * step ≤ greatest
    else least < c * step && c * step < greatest
  let low := value / step
  let high := low + 1
  let lowIsNearer : Bool :=
    let toLow := value - low * step
    let toHigh := high * step - value
    toLow < toHigh || (toLow == toHigh && low % 2 == 0)
  match readsBack low, readsBack high with
  | true, true => some (if lowIsNearer then low else high)
  | true, false => some low
  | false, true => some high
  | false, false => none

/-- The fewest digits that read back as `significand * 2 ^ exponent`, without trailing zeros, and
    the position of the point counted from before the first of them. -/
def shortestDigits (significand : Nat) (exponent : Int) : List Char × Int :=
  let point := pointPosition (significand * pow2 exponent.toNat) (pow2 (-exponent).toNat)
  let found := (List.range 17).findSome? fun n =>
    let k := point - (n + 1 : Nat)
    (neighbour? significand exponent k).map fun c => (natDigits c, k)
  match found with
  | some (ds, k) => ((ds.reverse.dropWhile (· == '0')).reverse, k + ds.length)
  | none => (['0'], 1)

/-- Digits with the point at `point`, written positionally with a digit on each side of it. -/
def positional (ds : List Char) (point : Int) : List Char :=
  if point ≤ 0 then '0' :: '.' :: (List.replicate (-point).toNat '0' ++ ds)
  else if (ds.length : Int) ≤ point then
    ds ++ List.replicate (point.toNat - ds.length) '0' ++ ['.', '0']
  else ds.take point.toNat ++ '.' :: ds.drop point.toNat

/-- Digits with the point at `point`, written with one digit before the point and a decimal
    exponent of at least two digits. -/
def scientific (ds : List Char) (point : Int) : List Char :=
  let exponent := point - 1
  let mantissa := match ds with
    | d :: rest => if rest.isEmpty then [d] else d :: '.' :: rest
    | [] => ['0']
  mantissa ++ 'e' :: (if exponent < 0 then '-' else '+') :: paddedDigits 2 exponent.natAbs

/-- The shortest text that reads back as `x`. -/
def shortestText (x : Float) : String :=
  match parts x with
  | .nan => "nan"
  | .infinite negative => if negative then "-inf" else "inf"
  | .finite negative m e =>
    let body :=
      if m == 0 then ['0', '.', '0']
      else
        let (ds, point) := shortestDigits m e
        if -4 < point && point ≤ 16 then positional ds point else scientific ds point
    String.ofList (if negative then '-' :: body else body)

/-- The number rounded to two digits behind the point, a tie going to the even digit. -/
def twoPlaces (x : Float) : String :=
  match parts x with
  | .nan => "nan"
  | .infinite negative => if negative then "-inf" else "inf"
  | .finite negative m e =>
    let hundredths := roundDiv (m * 100 * pow2 e.toNat) (pow2 (-e).toNat)
    let body := natDigits (hundredths / 100) ++ '.' :: paddedDigits 2 (hundredths % 100)
    String.ofList (if negative then '-' :: body else body)

example : shortestDigits (pow2 52) (-52) = (['1'], 1) := by decide
example : shortestDigits 0x1999999999999A (-56) = (['1'], 0) := by decide +kernel
example : shortestDigits 1 (-1074) = (['5'], -323) := by decide +kernel
example : positional ['2', '5'] 1 = "2.5".toList := by decide
example : scientific ['1'] 23 = "1e+22".toList := by decide
example : scientific ['1', '5'] (-6) = "1.5e-07".toList := by decide

end NewsSearch.Number
