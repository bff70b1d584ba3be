/-!
Powers of two and of ten.

Numbers are scaled by powers of two in binary and by powers of ten in decimal.  Both are the power
of natural numbers, whatever other powers are in scope.
-/

namespace NewsSearch.Number

/-- The `n`-th power of two. -/
abbrev pow2 (n : Nat) : Nat := Nat.pow 2 n

/-- The `n`-th power of ten. -/
abbrev pow10 (n : Nat) : Nat := Nat.pow 10 n

example : pow2 10 = 1024 := by decide
example : pow10 3 = 1000 := by decide

end NewsSearch.Number
