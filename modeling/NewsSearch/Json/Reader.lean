import NewsSearch.Data.Basic
import NewsSearch.Number.Binary64
import NewsSearch.Text.Integer

/-!
Reading JSON text.

The reader works on the list of characters and stops at the first thing that is wrong.  A stop
carries the number of characters that were left, so that the position in the text follows from the
length of the whole.  Objects become mappings in the order of their keys; a repeated key keeps its
first place and takes its last value.  Numerals without a fraction or an exponent are integers of
any size up to a limit on their digits, and the words `NaN`, `Infinity` and `-Infinity` are numbers.

Nested values are read with a bound on the number of steps; the bound that `read` sets is never
reached, because every two steps consume a character.
-/

namespace NewsSearch.Json

open Number Text

/-- What is wrong with a text that is not JSON. -/
inductive Cause where
  | expectingValue
  | expectingName
  | expectingColon
  | expectingComma
  | extraData
  | unterminatedText
  | invalidEscape
  | invalidUnicodeEscape
  | controlCharacter
  | byteOrderMark
  deriving DecidableEq, Repr

/-- The wording of a cause. -/
def Cause.message : Cause → String
  | expectingValue => "Expecting value"
  | expectingName => "Expecting property name enclosed in double quotes"
  | expectingColon => "Expecting ':' delimiter"
  | expectingComma => "Expecting ',' delimiter"
  | extraData => "Extra data"
  | unterminatedText => "Unterminated string starting at"
  | invalidEscape => "Invalid \\escape"
  | invalidUnicodeEscape => "Invalid \\uXXXX escape"
  | controlCharacter => "Invalid control character at"
  | byteOrderMark => "Unexpected UTF-8 BOM (decode using utf-8-sig)"

/-- Why reading stopped. -/
inductive Stop where
  /-- The text is wrong where `left` characters are left. -/
  | malformed (cause : Cause) (left : Nat)
  /-- A numeral has too many digits. -/
  | tooManyDigits (digits : Nat)
  deriving DecidableEq, Repr

/-! ## Blanks and numbers -/

/-- The characters that may stand between tokens. -/
def isSpace (c : Char) : Bool := c = ' ' || c = '\t' || c = '\n' || c = '\r'

/-- The characters without leading spaces. -/
def skip (cs : List Char) : List Char := cs.dropWhile isSpace

/-- The number that ASCII digits denote. -/
def digitsNumber (ds : List Char) : Nat := ds.foldl (fun n c => 10 * n + (c.toNat - 48)) 0

/-- The digits of a whole number without sign, and the rest: a zero stands alone. -/
def wholeDigits? : List Char → Option (List Char × List Char)
  | '0' :: rest => some (['0'], rest)
  | c :: rest =>
    if c.isDigit then some (c :: rest.takeWhile Char.isDigit, rest.dropWhile Char.isDigit) else none
  | [] => none

/-- The digits behind a decimal point, if a point with digits stands here, and the rest. -/
def fraction (cs : List Char) : List Char × List Char :=
  match cs with
  | '.' :: rest =>
    let ds := rest.takeWhile Char.isDigit
    if ds.isEmpty then ([], cs) else (ds, rest.dropWhile Char.isDigit)
  | _ => ([], cs)

/-- The exponent, if a complete one stands here, and the rest. -/
def exponent (cs : List Char) : Option Int × List Char :=
  match cs with
  | c :: rest =>
    if c = 'e' ∨ c = 'E' then
      let (negative, body) := match rest with
        | '-' :: body => (true, body)
        | '+' :: body => (false, body)
        | body => (false, body)
      let ds := body.takeWhile Char.isDigit
      if ds.isEmpty then (none, cs)
      else
        let n : Int := digitsNumber ds
        (some (if negative then -n else n), body.dropWhile Char.isDigit)
    else (none, cs)
  | [] => (none, cs)

/-- A number without its sign.  It is whole when it has neither fraction nor exponent. -/
def unsignedNumber? (negative : Bool) (cs : List Char) :
    Option (Except Stop (Data × List Char)) :=
  (wholeDigits? cs).map fun (whole, afterWhole) =>
    let (fractionDigits, afterFraction) := fraction afterWhole
    let (power, rest) := exponent afterFraction
    if fractionDigits.isEmpty && power.isNone then
      if digitLimit < whole.length then .error (.tooManyDigits whole.length)
      else
        let n : Int := digitsNumber whole
        .ok (.int (if negative then -n else n), rest)
    else
      let shift := power.getD 0 - fractionDigits.length
      .ok (.float (ofDecimal negative (digitsNumber (whole ++ fractionDigits)) shift), rest)

/-- A number. -/
def number? (cs : List Char) : Option (Except Stop (Data × List Char)) :=
  match cs with
  | '-' :: rest => unsignedNumber? true rest
  | _ => unsignedNumber? false cs

/-! ## Texts -/

/-- The character that a short escape stands for. -/
def shortEscape? (c : Char) : Option Char :=
  if c = '"' ∨ c = '\\' ∨ c = '/' then some c
  else if c = 'b' then some (Char.ofNat 8)
  else if c = 'f' then some (Char.ofNat 12)
  else if c = 'n' then some '\n'
  else if c = 'r' then some '\r'
  else if c = 't' then some '\t'
  else none

/-- Whether a code unit is the first half of a pair. -/
def isHighHalf (n : Nat) : Bool := 0xD800 ≤ n && n < 0xDC00

/-- Whether a code unit is the second half of a pair. -/
def isLowHalf (n : Nat) : Bool := 0xDC00 ≤ n && n < 0xE000

/-- A code unit as it is written in a text. -/
def unitChars (n : Nat) : List Char := (CodePoint.ofCode n).written

/-- The character that two halves form, as it is written in a text. -/
def pairChars (high low : Nat) : List Char :=
  unitChars (0x10000 + (high - 0xD800) * 0x400 + (low - 0xDC00))

/-- The characters of a text up to its closing quote, and the rest.  `opened` is the number of
    characters that were left at the opening quote. -/
def textBody (opened : Nat) : List Char → Except Stop (List Char × List Char)
  | [] => .error (.malformed .unterminatedText opened)
  | '"' :: rest => .ok ([], rest)
  | ['\\'] => .error (.malformed .unterminatedText opened)
  | '\\' :: 'u' :: a :: b :: c :: d :: next :: rest =>
    match hexValue? [a, b, c, d] with
    | none => .error (.malformed .invalidUnicodeEscape (rest.length + 6))
    | some unit =>
      match isHighHalf unit, next, rest with
      | true, '\\', 'u' :: e :: f :: g :: h :: last :: rest =>
        match hexValue? [e, f, g, h] with
        | none => .error (.malformed .invalidUnicodeEscape (rest.length + 6))
        | some low =>
          if isLowHalf low then
            (textBody opened (last :: rest)).map fun (cs, r) => (pairChars unit low ++ cs, r)
          else
            (textBody opened ('\\' :: 'u' :: e :: f :: g :: h :: last :: rest)).map
              fun (cs, r) => (unitChars unit ++ cs, r)
      | _, next, rest =>
        (textBody opened (next :: rest)).map fun (cs, r) => (unitChars unit ++ cs, r)
  | '\\' :: 'u' :: rest => .error (.malformed .invalidUnicodeEscape (rest.length + 1))
  | '\\' :: c :: rest =>
    match shortEscape? c with
    | none => .error (.malformed .invalidEscape (rest.length + 2))
    | some e => (textBody opened rest).map fun (cs, r) => (e :: cs, r)
  | c :: rest =>
    if c.toNat < 32 then .error (.malformed .controlCharacter (rest.length + 1))
    else (textBody opened rest).map fun (cs, r) => (c :: cs, r)

/-! ## Values -/

/-- The words that are values, each with the value it names. -/
def words : List (List Char × Data) := [
  (['n', 'u', 'l', 'l'], .null),
  (['t', 'r', 'u', 'e'], .bool true),
  (['f', 'a', 'l', 's', 'e'], .bool false),
  ("NaN".toList, .float notANumber),
  ("Infinity".toList, .float (infinity false)),
  ("-Infinity".toList, .float (infinity true))]

/-- The value of the word that stands here, and the rest. -/
def word? (cs : List Char) : Option (Data × List Char) :=
  words.findSome? fun (w, d) => if w.isPrefixOf cs then some (d, cs.drop w.length) else none

/-- A word or a number. -/
def plainValue (cs : List Char) : Except Stop (Data × List Char) :=
  match word? cs with
  | some found => .ok found
  | none =>
    match number? cs with
    | some result => result
    | none => .error (.malformed .expectingValue cs.length)

mutual

/-- The value that starts here, and the rest. -/
def value : Nat → List Char → Except Stop (Data × List Char)
  | 0, cs => .error (.malformed .expectingValue cs.length)
  | fuel + 1, cs =>
    match cs with
    | '"' :: rest => (textBody cs.length rest).map fun (t, r) => (.text (String.ofList t), r)
    | '[' :: rest =>
      match skip rest with
      | ']' :: after => .ok (.list [], after)
      | start => (items fuel start).map fun (ds, r) => (.list ds, r)
    | '{' :: rest =>
      match skip rest with
      | '}' :: after => .ok (.map [], after)
      | start => (members fuel start).map fun (es, r) => (.map (Record.ofPairs es), r)
    | _ => plainValue cs

/-- The items up to the closing bracket, and the rest. -/
def items : Nat → List Char → Except Stop (List Data × List Char)
  | 0, cs => .error (.malformed .expectingValue cs.length)
  | fuel + 1, cs => do
    let (d, afterItem) ← value fuel cs
    match skip afterItem with
    | ']' :: rest => .ok ([d], rest)
    | ',' :: rest => (items fuel (skip rest)).map fun (ds, r) => (d :: ds, r)
    | rest => .error (.malformed .expectingComma rest.length)

/-- The members up to the closing brace, and the rest. -/
def members : Nat → List Char → Except Stop (List (Scalar × Data) × List Char)
  | 0, cs => .error (.malformed .expectingValue cs.length)
  | fuel + 1, cs =>
    match cs with
    | '"' :: afterQuote => do
      let (name, afterName) ← textBody cs.length afterQuote
      match skip afterName with
      | ':' :: afterColon => do
        let (d, afterValue) ← value fuel (skip afterColon)
        let entry : Scalar × Data := (.text (String.ofList name), d)
        match skip afterValue with
        | '}' :: rest => .ok ([entry], rest)
        | ',' :: rest => (members fuel (skip rest)).map fun (es, r) => (entry :: es, r)
        | rest => .error (.malformed .expectingComma rest.length)
      | rest => .error (.malformed .expectingColon rest.length)
    | _ => .error (.malformed .expectingName cs.length)

end

/-- Reads a text that holds one value and nothing else. -/
def document (cs : List Char) : Except Stop Data :=
  match cs with
  | '\uFEFF' :: _ => .error (.malformed .byteOrderMark cs.length)
  | _ => do
    let (d, afterValue) ← value (2 * cs.length + 2) (skip cs)
    match skip afterValue with
    | [] => .ok d
    | rest => .error (.malformed .extraData rest.length)

/-! ## Faults with their place in the text -/

/-- Why a text could not be read. -/
inductive ReadFault where
  /-- The text is not JSON: what is wrong, and the number of code points before that place, its line
      and its column. -/
  | malformed (cause : Cause) (position line column : Nat)
  /-- A numeral has too many digits. -/
  | tooManyDigits (digits : Nat)
  deriving DecidableEq, Repr

/-- The wording of a fault. -/
def ReadFault.message : ReadFault → String
  | .malformed cause position line column =>
    s!"{cause.message}: line {natText line} column {natText column} (char {natText position})"
  | .tooManyDigits digits => (IntegerFault.tooManyDigits digits).message

/-- The place at which reading stopped. -/
def Stop.locate (cs : List Char) : Stop → ReadFault
  | .malformed cause left =>
    let before := cs.take (cs.length - left)
    let lastLine := (before.reverse.takeWhile (· != '\n')).reverse
    .malformed cause (pointCount before) (before.count '\n' + 1) (pointCount lastLine + 1)
  | .tooManyDigits digits => .tooManyDigits digits

/-- Reads a JSON text. -/
def read (s : String) : Except ReadFault Data :=
  (document s.toList).mapError (Stop.locate s.toList)

example : (read "[1, ]").toOption.isNone = true := by decide +kernel
example : ((read "\x7b\"a\": 1, \"a\": 2\x7d").toOption.bind (·.entries?)).map List.length = some 1 := by
  decide +kernel

end NewsSearch.Json
