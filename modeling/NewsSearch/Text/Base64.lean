import NewsSearch.Text.Hex

/-!
Bytes written in sixty-four characters, and bytes as messages show them.

Every character of the alphabet stands for six bits, four of them for three bytes.  Padding ends the
text where the last bytes do not fill a group of four; other characters do not count.
-/

namespace NewsSearch.Text

/-! ## Reading -/

/-- The six bits that a character stands for. -/
def sextet? (c : Char) : Option Nat :=
  if 'A' ≤ c ∧ c ≤ 'Z' then some (c.toNat - 65)
  else if 'a' ≤ c ∧ c ≤ 'z' then some (c.toNat - 71)
  else if '0' ≤ c ∧ c ≤ '9' then some (c.toNat + 4)
  else if c = '+' then some 62
  else if c = '/' then some 63
  else none

/-- The bits of the group that is being read: how many characters it has so far, what they stand
    for, and how many characters of padding came after them. -/
structure SextetGroup where
  size : Nat
  bits : Nat
  padding : Nat

/-- The byte that a character completes, and the group after it. -/
def SextetGroup.add (g : SextetGroup) (bits : Nat) : List Nat × SextetGroup :=
  match g.size with
  | 0 => ([], ⟨1, bits, 0⟩)
  | 1 => ([4 * g.bits + bits / 16], ⟨2, bits % 16, 0⟩)
  | 2 => ([16 * g.bits + bits / 4], ⟨3, bits % 4, 0⟩)
  | _ => ([64 * g.bits + bits], ⟨0, 0, 0⟩)

/-- The bytes that the characters after a group stand for.  The padding that fills a group ends the
    text; a group that is not filled has none. -/
def bytesAfter? : SextetGroup → List Char → Option (List Nat)
  | g, [] => if g.size = 0 then some [] else none
  | g, c :: rest =>
    if c = '=' then
      if 2 ≤ g.size then
        if 4 ≤ g.size + g.padding + 1 then some []
        else bytesAfter? { g with padding := g.padding + 1 } rest
      else bytesAfter? g rest
    else
      match sextet? c with
      | none => bytesAfter? g rest
      | some bits =>
        let (bytes, next) := g.add bits
        (bytesAfter? next rest).map (bytes ++ ·)

/-- The bytes that a text stands for. -/
def base64Bytes? (s : String) : Option (List Nat) :=
  if s.toList.all fun c => c.toNat < 128 then bytesAfter? ⟨0, 0, 0⟩ s.toList else none

/-! ## Showing -/

/-- One byte inside quotes. -/
def quotedByte (mark : Char) (byte : Nat) : List Char :=
  let c := Char.ofNat byte
  if c = mark ∨ c = '\\' then ['\\', c]
  else if c = '\n' then ['\\', 'n']
  else if c = '\r' then ['\\', 'r']
  else if c = '\t' then ['\\', 't']
  else if 32 ≤ byte ∧ byte < 127 then [c]
  else '\\' :: 'x' :: hexDigits 2 byte

/-- The bytes as messages show them. -/
def shownBytes (bytes : List Nat) : String :=
  let mark := if bytes.contains 39 && !bytes.contains 34 then '"' else '\''
  String.ofList ('b' :: mark :: bytes.flatMap (quotedByte mark) ++ [mark])

example : base64Bytes? "aGk=" = some [104, 105] := by decide +kernel
example : base64Bytes? "a G\nk" = none := by decide +kernel
example : shownBytes [104, 39, 0] = "b\"h'\\x00\"" := by decide +kernel

end NewsSearch.Text
