import NewsSearch.Number.Shortest

/-!
Times and durations in seconds.

Pacing and pausing only add, subtract and compare times, so they are defined for every type with
these operations: for doubles, by which programs measure time, and for exact fractions.  Doubles
have a range that whole numbers can leave; fractions have none.
-/

namespace NewsSearch

/-- A type of times and durations in seconds. -/
class Seconds (τ : Type) extends Add τ, Sub τ, LT τ where
  decidableLT : DecidableLT τ
  /-- So many whole seconds. -/
  ofNat : Nat → τ
  /-- Whether so many whole seconds are within the range of the type. -/
  holds : Nat → Bool
  /-- The time with two digits behind the point. -/
  twoPlaces : τ → String

attribute [reducible, instance] Seconds.decidableLT

instance : Seconds Float where
  decidableLT := inferInstance
  ofNat := Float.ofNat
  holds n := (Number.ofInt? n).isSome
  twoPlaces := Number.twoPlaces

/-- A fraction rounded to two digits behind the point, a tie going to the even digit. -/
def Number.twoPlacesOfRat (x : Rat) : String :=
  let hundredths := Number.roundDiv (x.num.natAbs * 100) x.den
  let body := Number.natDigits (hundredths / 100) ++ '.' :: Number.paddedDigits 2 (hundredths % 100)
  String.ofList (if x < 0 then '-' :: body else body)

instance : Seconds Rat where
  decidableLT := inferInstance
  ofNat n := n
  holds _ := true
  twoPlaces := Number.twoPlacesOfRat

example : Number.twoPlacesOfRat (7 / 8) = "0.88" := by decide +kernel

end NewsSearch
