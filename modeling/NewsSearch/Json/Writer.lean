import NewsSearch.Data.Display
import NewsSearch.Text.Integer

/-!
Writing values as JSON text.

One writer serves two formats.  The wire format puts everything on one line, with a space behind
each comma and colon, and escapes every character outside printable ASCII.  The file format indents
by two spaces for each level and escapes only what JSON requires.

Tuples are written as lists, and keys that are numbers, truth values or nothing as the text of their
JSON form.  Days and moments have no JSON form: `write` refuses them, and `writeLenient` writes them
as text where they are values.  No format has a form for them as keys.
-/

namespace NewsSearch.Json

open Number Text

/-- How a value is laid out and which characters are escaped. -/
structure Format where
  /-- Escape every character outside printable ASCII. -/
  asciiOnly : Bool
  /-- Give each element a line of its own, indented by its depth. -/
  indented : Bool
  deriving DecidableEq, Repr

/-- The format of request bodies: one line, ASCII only. -/
def wire : Format := ⟨true, false⟩

/-- The format of files: indented lines, any characters. -/
def file : Format := ⟨false, true⟩

/-! ## Texts -/

/-- The escape of a code point by its code, in two halves when it is above `U+FFFF`. -/
def unicodeEscape (code : Nat) : List Char :=
  if code < 0x10000 then '\\' :: 'u' :: hexDigits 4 code
  else
    let beyond := code - 0x10000
    '\\' :: 'u' :: hexDigits 4 (0xD800 + beyond / 0x400) ++
      '\\' :: 'u' :: hexDigits 4 (0xDC00 + beyond % 0x400)

/-- A character inside a text. -/
def escapedChar (f : Format) (c : Char) : List Char :=
  if c = '"' then ['\\', '"']
  else if c = '\\' then ['\\', '\\']
  else if c = '\n' then ['\\', 'n']
  else if c = '\r' then ['\\', 'r']
  else if c = '\t' then ['\\', 't']
  else if c.toNat = 8 then ['\\', 'b']
  else if c.toNat = 12 then ['\\', 'f']
  else if c.toNat < 32 then unicodeEscape c.toNat
  else if f.asciiOnly && 126 < c.toNat then unicodeEscape c.toNat
  else CodePoint.written (.char c)

/-- A code point inside a text. -/
def escapedPoint (f : Format) : CodePoint → List Char
  | .char c => escapedChar f c
  | .surrogate code =>
    if f.asciiOnly then unicodeEscape code else CodePoint.written (.surrogate code)

/-- A text in its quotes. -/
def textChars (f : Format) (s : String) : List Char :=
  '"' :: (codePoints s.toList).flatMap (escapedPoint f) ++ ['"']

/-! ## Scalars -/

/-- A decimal number; the three values without a numeral have names. -/
def floatChars (x : Float) : List Char :=
  match parts x with
  | .nan => "NaN".toList
  | .infinite false => "Infinity".toList
  | .infinite true => "-Infinity".toList
  | .finite .. => (shortestText x).toList

/-- A scalar; a day, a moment or a value of another type as text. -/
def scalarChars (f : Format) : Scalar → List Char
  | .null => ['n', 'u', 'l', 'l']
  | .bool true => ['t', 'r', 'u', 'e']
  | .bool false => ['f', 'a', 'l', 's', 'e']
  | .int n => intDigits n
  | .float x => floatChars x
  | .text s => textChars f s
  | s => textChars f s.plain

/-- The text that a key is written as. -/
def keyText : Scalar → String
  | .text s => s
  | s => String.ofList (scalarChars wire s)

/-! ## Values -/

/-- The start of a line at the given depth, in indented formats. -/
def lineStart (f : Format) (depth : Nat) : List Char :=
  if f.indented then '\n' :: List.replicate (2 * depth) ' ' else []

/-- What stands between two elements at the given depth. -/
def between (f : Format) (depth : Nat) : List Char :=
  ',' :: if f.indented then lineStart f depth else [' ']

mutual

/-- A value at the given depth. -/
def chars (f : Format) (depth : Nat) : Data → List Char
  | .scalar s => scalarChars f s
  | .list items => listChars f depth items
  | .tuple items => listChars f depth items
  | .map [] => ['{', '}']
  | .map ((k, v) :: rest) =>
    '{' :: lineStart f (depth + 1) ++ (textChars f (keyText k) ++ ':' :: ' ' :: chars f (depth + 1) v)
      ++ (laterEntries f (depth + 1) rest ++ (lineStart f depth ++ ['}']))

/-- The items of a list at the given depth, in brackets. -/
def listChars (f : Format) (depth : Nat) : List Data → List Char
  | [] => ['[', ']']
  | item :: rest =>
    '[' :: lineStart f (depth + 1) ++ chars f (depth + 1) item
      ++ (laterItems f (depth + 1) rest ++ (lineStart f depth ++ [']']))

/-- The items after the first, each behind its comma. -/
def laterItems (f : Format) (depth : Nat) : List Data → List Char
  | [] => []
  | item :: rest => between f depth ++ (chars f depth item ++ laterItems f depth rest)

/-- The entries after the first, each behind its comma. -/
def laterEntries (f : Format) (depth : Nat) : List (Scalar × Data) → List Char
  | [] => []
  | (k, v) :: rest =>
    between f depth ++ (textChars f (keyText k) ++ ':' :: ' ' :: chars f depth v
      ++ laterEntries f depth rest)

end

/-! ## What has no JSON form -/

/-- Why a value cannot be written. -/
inductive WriteFault where
  /-- A value of this type has no JSON form. -/
  | value (typeName : String)
  /-- A key of this type has no JSON form. -/
  | key (typeName : String)
  /-- An integer has too many digits to be written. -/
  | integer
  deriving DecidableEq, Repr

/-- The wording of a fault. -/
def WriteFault.message : WriteFault → String
  | .value typeName => s!"Object of type {typeName} is not JSON serializable"
  | .key typeName => s!"keys must be str, int, float, bool or None, not {typeName}"
  | .integer =>
    s!"Exceeds the limit ({natText digitLimit} digits) for integer string conversion; " ++
      "use sys.set_int_max_str_digits() to increase the limit"

/-- Whether an integer has more digits than may be written.  An integer of fewer than 14000 bits has
    not. -/
def isTooLong (n : Int) : Bool :=
  if n.natAbs.log2 < 14000 then false else pow10 digitLimit ≤ n.natAbs

/-- Why a scalar has no JSON form, `fault` telling what a day, a moment or a value of another type
    is taken for. -/
def scalarFault? (fault : String → Option WriteFault) : Scalar → Option WriteFault
  | .date _ => fault "date"
  | .moment _ => fault "datetime"
  | .tuple _ => fault "tuple"
  | .other typeName _ => fault typeName
  | .int n => if isTooLong n then some .integer else none
  | _ => none

mutual

/-- The first thing in the value that has no JSON form.  When `lenient`, values that could only be
    written as text pass, but for keys. -/
def fault? (lenient : Bool) : Data → Option WriteFault
  | .scalar s => scalarFault? (fun name => if lenient then none else some (.value name)) s
  | .list items => faultInItems? lenient items
  | .tuple items => faultInItems? lenient items
  | .map entries => faultInEntries? lenient entries

/-- The first thing among the items that has no JSON form. -/
def faultInItems? (lenient : Bool) : List Data → Option WriteFault
  | [] => none
  | item :: rest => (fault? lenient item).or (faultInItems? lenient rest)

/-- The first thing among the entries that has no JSON form; a key comes before its value. -/
def faultInEntries? (lenient : Bool) : List (Scalar × Data) → Option WriteFault
  | [] => none
  | (k, v) :: rest =>
    (scalarFault? (fun name => some (.key name)) k).or
      ((fault? lenient v).or (faultInEntries? lenient rest))

end

/-- The JSON text of a value, or the first thing in it that has none. -/
def write (f : Format) (d : Data) : Except WriteFault String :=
  match fault? false d with
  | some fault => .error fault
  | none => .ok (String.ofList (chars f 0 d))

/-- The JSON text of a value, with days, moments and values of other types as text. -/
def writeLenient (f : Format) (d : Data) : Except WriteFault String :=
  match fault? true d with
  | some fault => .error fault
  | none => .ok (String.ofList (chars f 0 d))

example : chars wire 0 (.map [(.text "a", .list [.int 1, .null])]) =
    "\x7b\"a\": [1, null]\x7d".toList := by decide +kernel
example : chars file 0 (.map [(.text "é", .list [])]) = "\x7b\n  \"é\": []\n\x7d".toList := by
  decide +kernel
example : unicodeEscape 0x1f600 = "\\ud83d\\ude00".toList := by decide +kernel

end NewsSearch.Json
