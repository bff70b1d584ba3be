/-!
Integers bit by bit.

An integer is taken as an endless row of bits: a natural number has zeros from some place on, and a
negative number is the complement of a natural number, with the opposite bit in every place.
-/

namespace NewsSearch.Number

/-- The integer with the opposite bit in every place. -/
def complement (n : Int) : Int := -1 - n

/-- The bits that both integers have. -/
def bitAnd : Int → Int → Int
  | .ofNat a, .ofNat b => .ofNat (Nat.land a b)
  | .ofNat a, .negSucc b => .ofNat (a - Nat.land a b)
  | .negSucc a, .ofNat b => .ofNat (b - Nat.land a b)
  | .negSucc a, .negSucc b => .negSucc (Nat.lor a b)

/-- The bits that one of the integers has, or both. -/
def bitOr (a b : Int) : Int := complement (bitAnd (complement a) (complement b))

@[simp] theorem complement_complement (n : Int) : complement (complement n) = n := by
  unfold complement; omega

example : bitAnd (-2) 7 = 6 ∧ bitOr (-2) 7 = -1 ∧ bitOr 5 2 = 7 := by decide

end NewsSearch.Number
