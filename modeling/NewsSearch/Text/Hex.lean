/-!
Hexadecimal numbers of a fixed width, in small letters.

Escapes name a character by its code point in four or eight hexadecimal digits.  `hexDigits` writes
them and `hexValue?` reads digits in either case.
-/

namespace NewsSearch.Text

/-- The hexadecimal digit of a number below 16. -/
def hexDigit (n : Nat) : Char := if n < 10 then Char.ofNat (48 + n) else Char.ofNat (87 + n)

/-- The last `width` hexadecimal digits of `n`, the most significant first. -/
def hexDigits : Nat → Nat → List Char
  | 0, _ => []
  | width + 1, n => hexDigits width (n / 16) ++ [hexDigit (n % 16)]

/-- The value of a hexadecimal digit in either case. -/
def hexDigitValue? (c : Char) : Option Nat :=
  if '0' ≤ c ∧ c ≤ '9' then some (c.toNat - 48)
  else if 'a' ≤ c ∧ c ≤ 'f' then some (c.toNat - 87)
  else if 'A' ≤ c ∧ c ≤ 'F' then some (c.toNat - 55)
  else none

/-- The number that hexadecimal digits denote after digits of value `acc`. -/
def hexValueFrom? : Nat → List Char → Option Nat
  | acc, [] => some acc
  | acc, c :: rest => (hexDigitValue? c).bind fun d => hexValueFrom? (16 * acc + d) rest

/-- The number that hexadecimal digits denote. -/
def hexValue? (cs : List Char) : Option Nat := hexValueFrom? 0 cs

@[simp] theorem length_hexDigits (width n : Nat) : (hexDigits width n).length = width := by
  induction width generalizing n with
  | zero => rfl
  | succ width ih => simp [hexDigits, ih]

/-- Reading a digit gives back the number it was written for. -/
theorem hexDigitValue?_hexDigit : ∀ n < 16, hexDigitValue? (hexDigit n) = some n := by decide

theorem hexValueFrom?_append (acc : Nat) (as bs : List Char) :
    hexValueFrom? acc (as ++ bs) = (hexValueFrom? acc as).bind fun n => hexValueFrom? n bs := by
  induction as generalizing acc with
  | nil => rfl
  | cons a as ih =>
    simp only [List.cons_append, hexValueFrom?]
    cases hexDigitValue? a with
    | none => rfl
    | some d => simpa using ih (16 * acc + d)

theorem hexValueFrom?_hexDigits (acc width n : Nat) (h : n < Nat.pow 16 width) :
    hexValueFrom? acc (hexDigits width n) = some (acc * Nat.pow 16 width + n) := by
  induction width generalizing acc n with
  | zero => simp at h; simp [hexDigits, hexValueFrom?, h]
  | succ width ih =>
    have hdiv : n / 16 < Nat.pow 16 width := by
      rw [Nat.div_lt_iff_lt_mul (by decide)]; exact h
    have hmod : n % 16 < 16 := Nat.mod_lt _ (by decide)
    rw [hexDigits, hexValueFrom?_append, ih acc _ hdiv]
    simp only [Option.bind_some, hexValueFrom?, hexDigitValue?_hexDigit _ hmod]
    rw [show Nat.pow 16 (width + 1) = Nat.pow 16 width * 16 from rfl, ← Nat.mul_assoc]
    congr 1
    omega

/-- Written digits read back. -/
theorem hexValue?_hexDigits {width n : Nat} (h : n < Nat.pow 16 width) :
    hexValue? (hexDigits width n) = some n := by
  simp [hexValue?, hexValueFrom?_hexDigits 0 width n h]

example : hexDigits 4 0xe9 = "00e9".toList := by decide
example : hexValue? "D83d".toList = some 0xd83d := by decide

end NewsSearch.Text
