import NewsSearch.Number.Numeral
import NewsSearch.Text.CodePoint
import NewsSearch.Text.Hex

/-!
Texts in bytes.

A text that holds a surrogate can be kept and compared, but it has no form in bytes.  Names of files
and of variables have one as long as their surrogates are those that stand for single bytes.  What
is only shown has its surrogates written as escapes.
-/

namespace NewsSearch.Text

open Number

/-! ## Escapes -/

/-- A surrogate as an escape, and any other code point as it is written. -/
def surrogateEscaped : CodePoint → List Char
  | .surrogate code => '\\' :: 'u' :: hexDigits 4 code
  | p => p.written

/-- The text with its surrogates written as escapes. -/
def withoutSurrogates (s : String) : String :=
  String.ofList ((codePoints s.toList).flatMap surrogateEscaped)

/-! ## Faults -/

/-- Why a text has no form in bytes: the first surrogate in it, its place, and the number of
    surrogates that stand there in a row. -/
structure EncodingFault where
  code : Nat
  place : Nat
  count : Nat
  deriving DecidableEq, Repr

/-- The wording of an encoding fault. -/
def EncodingFault.message (fault : EncodingFault) : String :=
  let what :=
    if fault.count = 1 then
      let shown := String.ofList ('\\' :: 'u' :: hexDigits 4 fault.code)
      s!"character '{shown}' in position {natText fault.place}"
    else s!"characters in position {natText fault.place}-{natText (fault.place + fault.count - 1)}"
  s!"'utf-8' codec can't encode {what}: surrogates not allowed"

/-- Whether the code point is a surrogate. -/
def CodePoint.isSurrogate : CodePoint → Bool
  | surrogate _ => true
  | char _ => false

/-- The first surrogates that do not pass, in a text whose first code point has the given place. -/
def encodingFaultFrom? (passes : Nat → Bool) : Nat → List CodePoint → Option EncodingFault
  | _, [] => none
  | i, .char _ :: rest => encodingFaultFrom? passes (i + 1) rest
  | i, .surrogate code :: rest =>
    if passes code then encodingFaultFrom? passes (i + 1) rest
    else some ⟨code, i, (rest.takeWhile CodePoint.isSurrogate).length + 1⟩

/-- Why the text has no form in bytes, if it has none. -/
def encodingFault? (s : String) : Option EncodingFault :=
  encodingFaultFrom? (fun _ => false) 0 (codePoints s.toList)

/-- Whether a surrogate stands for a single byte in names. -/
def isByte (code : Nat) : Bool := 0xdc80 ≤ code && code ≤ 0xdcff

/-- Why the name of a file or of a variable has no form in bytes, if it has none. -/
def nameFault? (s : String) : Option EncodingFault :=
  encodingFaultFrom? isByte 0 (codePoints s.toList)

/-! ## Sizes -/

/-- The number of bytes of a code point in a name. -/
def byteSize : CodePoint → Nat
  | .char c => c.utf8Size
  | .surrogate _ => 1

/-- The number of bytes of a name. -/
def nameSize (s : String) : Nat :=
  (codePoints s.toList).foldl (fun size p => size + byteSize p) 0

example : nameFault? (textOf [.surrogate 0xdc80, .surrogate 0xd800]) = some ⟨0xd800, 1, 1⟩ := by
  decide +kernel
example : encodingFault? "ab" = none := by decide +kernel
example : encodingFault? (textOf [.char 'a', .surrogate 0xd800]) = some ⟨0xd800, 1, 1⟩ := by
  decide +kernel
example : nameSize (textOf [.char 'é', .surrogate 0xdc80]) = 3 := by decide +kernel

end NewsSearch.Text
