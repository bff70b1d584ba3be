/-!
Sets of characters given by the code points at which membership changes.

A property of characters is a set of code points that falls into runs.  Listing only the points at
which the property switches on and off, in ascending order, keeps such a table short; a code point
has the property when the number of switches at or below it is odd.
-/

namespace NewsSearch.Text

/-- Whether `code` lies in the set that starts empty and switches at each listed code point. -/
def switchedOn : List Nat → Nat → Bool
  | [], _ => false
  | point :: rest, code => if code < point then false else !switchedOn rest code

/-- Below the first switch nothing is in the set. -/
theorem switchedOn_eq_false_of_lt {point code : Nat} {rest : List Nat} (h : code < point) :
    switchedOn (point :: rest) code = false := by
  simp [switchedOn, h]

example : switchedOn [10, 20, 30] 9 = false := by decide
example : switchedOn [10, 20, 30] 10 = true := by decide
example : switchedOn [10, 20, 30] 20 = false := by decide
example : switchedOn [10, 20, 30] 1000 = true := by decide

end NewsSearch.Text
