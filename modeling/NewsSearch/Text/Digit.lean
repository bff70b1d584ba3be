import NewsSearch.Text.Membership
import NewsSearch.Text.Blank

/-!
Digits of any script.

A decimal digit is a character with a value from 0 to 9 in a positional script; each script has its
ten digits in one run.  Some further characters, such as superscripts and circled numbers, count as
digits without being positional.
-/

namespace NewsSearch.Text

/-- The zeros of the positional scripts, in ascending order; the digits of a script follow its
    zero. -/
def zeros : List Nat := [
    48, 1632, 1776, 1984, 2406, 2534, 2662, 2790, 2918, 3046, 3174, 3302, 3430, 3558, 3664,
    3792, 3872, 4160, 4240, 6112, 6160, 6470, 6608, 6784, 6800, 6992, 7088, 7232, 7248, 42528,
    43216, 43264, 43472, 43504, 43600, 44016, 65296, 66720, 68912, 69734, 69872, 69942, 70096,
    70384, 70736, 70864, 71248, 71360, 71472, 71904, 72016, 72784, 73040, 73120, 92768, 92864,
    93008, 120782, 120792, 120802, 120812, 120822, 123200, 123632, 125264, 130032]

/-- The code points at which the further digits, those without a positional value, begin and
    end. -/
def signDigitSwitches : List Nat := [
    178, 180, 185, 186, 4969, 4978, 6618, 6619, 8304, 8305, 8308, 8314, 8320, 8330, 9312, 9321,
    9332, 9341, 9352, 9361, 9450, 9451, 9461, 9470, 9471, 9472, 10102, 10111, 10112, 10121,
    10122, 10131, 68160, 68164, 69216, 69225, 69714, 69723, 127232, 127243]

/-- The value of a decimal digit of any script. -/
def digitValue? (c : Char) : Option Nat :=
  if '0' ≤ c ∧ c ≤ '9' then some (c.toNat - 48)
  else if c.toNat < 128 then none
  else (zeros.find? fun z => z ≤ c.toNat && c.toNat < z + 10).map (c.toNat - ·)

/-- Whether the character is a decimal digit of some script. -/
def isDecimal (c : Char) : Bool := (digitValue? c).isSome

/-- Whether the character is a digit, positional or not. -/
def isDigit (c : Char) : Bool :=
  isDecimal c || (128 ≤ c.toNat && switchedOn signDigitSwitches c.toNat)

/-- A non-empty run of digits, positional or not. -/
def isDigits (cs : List Char) : Bool := !cs.isEmpty && cs.all isDigit

/-- The number that two ASCII digits at the beginning denote, and the rest. -/
def twoDigits? : List Char → Option (Nat × List Char)
  | tens :: ones :: rest =>
    if tens.isDigit && ones.isDigit then
      some (10 * (tens.toNat - 48) + (ones.toNat - 48), rest)
    else none
  | _ => none

example : twoDigits? "073".toList = some (7, ['3']) := by decide +kernel
example : digitValue? '٤' = some 4 := by decide +kernel
example : isDecimal '²' = false := by decide +kernel
example : isDigits ['²'] = true := by decide +kernel

end NewsSearch.Text
