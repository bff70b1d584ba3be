import NewsSearch.Text.CodePoint
import NewsSearch.Text.Hex
import NewsSearch.Text.Printable

/-!
Quoted text as messages show it.

The text stands between apostrophes, or between double quotes when it holds an apostrophe and no
double quote.  The surrounding quote and the backslash are escaped, printable characters stand for
themselves, and every other character is written as one of the short escapes or by its code point
in two, four or eight hexadecimal digits, whichever is the first to suffice.
-/

namespace NewsSearch.Text

/-- The mark that `quoted` puts around the characters. -/
def quoteMark (cs : List Char) : Char :=
  if cs.contains '\'' && !cs.contains '"' then '"' else '\''

/-- One character inside quotes. -/
def quotedChar (mark c : Char) : List Char :=
  if c = mark ∨ c = '\\' then ['\\', c]
  else if c = '\n' then ['\\', 'n']
  else if c = '\r' then ['\\', 'r']
  else if c = '\t' then ['\\', 't']
  else if isPrintable c then [c]
  else if c.toNat < 0x100 then '\\' :: 'x' :: hexDigits 2 c.toNat
  else if c.toNat < 0x10000 then '\\' :: 'u' :: hexDigits 4 c.toNat
  else '\\' :: 'U' :: hexDigits 8 c.toNat

/-- One code point inside quotes. -/
def quotedPoint (mark : Char) : CodePoint → List Char
  | .char c => quotedChar mark c
  | .surrogate code => '\\' :: 'u' :: hexDigits 4 code

/-- The text in quotes, with every character that would not show itself escaped. -/
def quoted (s : String) : String :=
  let cs := s.toList
  let mark := quoteMark cs
  String.ofList (mark :: (codePoints cs).flatMap (quotedPoint mark) ++ [mark])

/-- The quoted texts between square brackets, separated by commas. -/
def quotedList (texts : List String) : String :=
  "[" ++ ", ".intercalate (texts.map quoted) ++ "]"

example : quoted "it" = "'it'" := by decide +kernel
example : quoted "it's" = "\"it's\"" := by decide +kernel
example : quoted "a\n\u00ad" = "'a\\n\\xad'" := by decide +kernel
example : quotedList ["a", "b"] = "['a', 'b']" := by decide +kernel

end NewsSearch.Text
