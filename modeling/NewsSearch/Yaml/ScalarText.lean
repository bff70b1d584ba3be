import NewsSearch.Text.Hex
import NewsSearch.Text.CodePoint
import NewsSearch.Yaml.Place

/-!
The text of scalars.

A scalar is written plainly, in single or double quotes, or as a block of lines.  A line end inside
a plain or quoted scalar becomes a space, and empty lines become line ends.  A block keeps its lines
or folds them in the same way, and a mark says what becomes of the line ends at its end.
-/

namespace NewsSearch.Yaml

/-! ## Folding -/

/-- The line ends of empty lines, and what follows them. -/
def emptyLines : List Char → List Char × List Char
  | [] => ([], [])
  | c :: rest =>
    if isSpace c then emptyLines rest
    else if endsLine c then
      let (ends, after) := emptyLines rest
      (c :: ends, after)
    else ([], c :: rest)

/-- What a line end becomes when `ends` are the line ends of the empty lines that follow it. -/
def foldedEnd (c : Char) (ends : List Char) : List Char :=
  if c ≠ '\n' then c :: ends
  else if ends.isEmpty then [' ']
  else ends

/-- What the separators at the beginning of a text become inside quotes, and what follows them. -/
def foldedGap (cs : List Char) : List Char × List Char :=
  let gap := cs.takeWhile isSpace
  match cs.dropWhile isSpace with
  | c :: rest =>
    if endsLine c then
      let (ends, after) := emptyLines rest
      (foldedEnd c ends, after)
    else (gap, c :: rest)
  | [] => (gap, [])

/-! ## Quoted scalars -/

/-- The body of a scalar in single quotes, where a quote is written twice, and what follows it. -/
def singleQuoted : Nat → List Char → Option (List Char × List Char)
  | 0, _ => none
  | _ + 1, [] => none
  | fuel + 1, c :: rest =>
    let also (some' : List Char) (from' : List Char) : Option (List Char × List Char) :=
      (singleQuoted fuel from').map fun (body, after) => (some' ++ body, after)
    if c = '\'' then
      match rest with
      | '\'' :: rest => also ['\''] rest
      | _ => some ([], rest)
    else if isSeparator c then
      let (gap, after) := foldedGap (c :: rest)
      also gap after
    else also [c] rest

/-- The characters for which a letter after a backslash stands. -/
def letterEscapes : List (Char × Char) := [
  ('0', '\x00'), ('a', '\x07'), ('b', '\x08'), ('t', '\t'), ('\t', '\t'), ('n', '\n'),
  ('v', '\x0b'), ('f', '\x0c'), ('r', '\r'), ('e', '\x1b'), (' ', ' '), ('"', '"'), ('\\', '\\'),
  ('/', '/'), ('N', '\u0085'), ('_', '\u00a0'), ('L', '\u2028'), ('P', '\u2029')]

/-- The number of hexadecimal digits after a letter that announces a code point. -/
def codeLengths : List (Char × Nat) := [('x', 2), ('u', 4), ('U', 8)]

/-- The code point of a code, as it is written in a text. -/
def codeChars? (n : Nat) : Option (List Char) :=
  if n < 0x110000 then some (Text.CodePoint.ofCode n).written else none

/-- What an escape stands for, and what follows it. -/
def escaped? : List Char → Option (List Char × List Char)
  | [] => none
  | c :: rest =>
    match letterEscapes.lookup c with
    | some d => some ([d], rest)
    | none => do
      let length ← codeLengths.lookup c
      let digits := rest.take length
      if digits.length = length then
        (Text.hexValue? digits).bind fun n => (codeChars? n).map (·, rest.drop length)
      else none

/-- The body of a scalar in double quotes, and what follows it.  A backslash at the end of a line
    joins it to the next one. -/
def doubleQuoted : Nat → List Char → Option (List Char × List Char)
  | 0, _ => none
  | _ + 1, [] => none
  | fuel + 1, c :: rest =>
    let also (some' : List Char) (from' : List Char) : Option (List Char × List Char) :=
      (doubleQuoted fuel from').map fun (body, after) => (some' ++ body, after)
    if c = '"' then some ([], rest)
    else if c = '\\' then
      match rest with
      | d :: after =>
        if endsLine d then
          let (ends, after) := emptyLines after
          also ends after
        else (escaped? (d :: after)).bind fun (e, after) => also e after
      | [] => none
    else if isSeparator c then
      let (gap, after) := foldedGap (c :: rest)
      also gap after
    else also [c] rest

/-- The scalar that begins with a quote, and the place after it. -/
def quotedScalar? (p : Place) : Option (String × Place) :=
  let fuel := p.rest.length + 1
  let body? := match p.rest with
    | '\'' :: rest => singleQuoted fuel rest
    | '"' :: rest => doubleQuoted fuel rest
    | _ => none
  body?.map fun (body, after) => (String.ofList body, p.goTo after)

/-! ## Plain scalars -/

/-- The characters that end a plain scalar in a flow collection. -/
def flowMarks : List Char := [',', '?', '[', ']', '{', '}']

/-- The characters before which a colon ends a plain scalar in a flow collection. -/
def flowStops : List Char := [',', '[', ']', '{', '}']

/-- Whether a plain scalar ends at this character, `next` being what follows it. -/
def endsPlain (flow : Bool) (c : Char) (next : List Char) : Bool :=
  isSeparator c || (flow && flowMarks.contains c) ||
    (c = ':' && (Place.beginsApart next ||
      (flow && match next with
        | d :: _ => flowStops.contains d
        | [] => true)))

/-- The part of a plain scalar up to the next separator, and what follows it. -/
def plainWord (flow : Bool) : List Char → List Char × List Char
  | [] => ([], [])
  | c :: rest =>
    if endsPlain flow c rest then ([], c :: rest)
    else
      let (word, after) := plainWord flow rest
      (c :: word, after)

/-- The gap after a part of a plain scalar, as it is kept, and the place after it. -/
def plainGap (p : Place) : List Char × Place :=
  let gap := p.rest.takeWhile (· = ' ')
  match p.rest.dropWhile (· = ' ') with
  | c :: rest =>
    if endsLine c then
      let next : Place := ⟨rest, 0⟩
      if next.isEnd then ([], next)
      else
        let (ends, after) := emptyLines rest
        (foldedEnd c ends, next.goTo after)
    else (gap, p.goTo (c :: rest))
  | [] => (gap, p.goTo [])

/-- The rest of a plain scalar after `done`, and the place after it.  Outside flow collections its
    later lines are indented to `least` at least. -/
def plainFrom (flow : Bool) (least : Nat) : Nat → List Char → Place → List Char × Place
  | 0, done, p => (done, p)
  | fuel + 1, done, p =>
    let (gap, next) := plainGap p
    if gap.isEmpty || next.isEnd || next.peek == some '#' || (!flow && next.column < least) then
      (done, next)
    else
      let (word, after) := plainWord flow next.rest
      if word.isEmpty then (done, next)
      else plainFrom flow least fuel (done ++ gap ++ word) (next.goTo after)

/-- A plain scalar, and the place after it. -/
def plainScalar (flow : Bool) (least : Nat) (p : Place) : String × Place :=
  let (word, after) := plainWord flow p.rest
  let (body, next) := plainFrom flow least p.rest.length word (p.goTo after)
  (String.ofList body, next)

/-- The rest of a plain scalar on its line. -/
def plainLineFrom : Nat → List Char → List Char → List Char × List Char
  | 0, done, rest => (done, rest)
  | fuel + 1, done, rest =>
    let gap := rest.takeWhile (· = ' ')
    let next := rest.drop gap.length
    let (word, after) := plainWord false next
    if gap.isEmpty || word.isEmpty || next.head? == some '#' then (done, rest)
    else plainLineFrom fuel (done ++ gap ++ word) after

/-- A plain scalar that ends on its line, and the place after it. -/
def plainLine (p : Place) : String × Place :=
  let (word, after) := plainWord false p.rest
  let (body, rest) := plainLineFrom p.rest.length word after
  (String.ofList body, p.goTo rest)

/-! ## Blocks of lines -/

/-- What becomes of the line ends at the end of a block. -/
inductive Chomping where
  /-- The last one stays. -/
  | clip
  /-- None stays. -/
  | strip
  /-- All stay. -/
  | keep
  deriving DecidableEq, Repr

/-- The marks after the indicator of a block: what becomes of the line ends at its end, and how far
    it is indented, if that is given. -/
def blockMarks : List Char → Chomping × Option Nat
  | [] => (.clip, none)
  | c :: rest =>
    let (chomping, depth) := blockMarks rest
    if c = '+' then (.keep, depth)
    else if c = '-' then (.strip, depth)
    else if '1' ≤ c ∧ c ≤ '9' then (chomping, some (c.toNat - 48))
    else (chomping, depth)

/-- The line ends of the empty lines of a block that is indented to `indent`, and the place after
    them. -/
def blockGap (indent : Nat) : List Char → Nat → List Char × Place
  | [], column => ([], ⟨[], column⟩)
  | c :: rest, column =>
    if c = ' ' && column < indent then blockGap indent rest (column + 1)
    else if endsLine c then
      let (ends, after) := blockGap indent rest 0
      (c :: ends, after)
    else ([], ⟨c :: rest, column⟩)

/-- The line ends before the first line of a block, the largest indentation up to it, and its
    place. -/
def blockLead : List Char → Nat → Nat → List Char × Nat × Place
  | [], column, deepest => ([], deepest, ⟨[], column⟩)
  | c :: rest, column, deepest =>
    if c = ' ' then blockLead rest (column + 1) (max deepest (column + 1))
    else if endsLine c then
      let (ends, deepest, after) := blockLead rest 0 deepest
      (c :: ends, deepest, after)
    else ([], deepest, ⟨c :: rest, column⟩)

/-- The lines of a block from a place on, after the line ends `ends`, and the place after it. -/
def blockLines (folded : Bool) (chomping : Chomping) (indent : Nat) :
    Nat → List Char → Place → List Char × Place
  | 0, _, p => ([], p)
  | fuel + 1, ends, p =>
    if p.column ≠ indent || p.rest.isEmpty then
      (if chomping = .keep then ends else [], p)
    else
      let line := p.rest.takeWhile (!endsLine ·)
      let lineEnd := (p.rest.dropWhile (!endsLine ·)).take 1
      let (later, next) := blockGap indent (p.rest.drop (line.length + 1)) 0
      let isFlush (cs : List Char) : Bool := match cs with
        | c :: _ => !isSpace c
        | [] => true
      if next.column = indent && !next.rest.isEmpty then
        let joint :=
          if folded && lineEnd == ['\n'] && isFlush line && isFlush next.rest then
            if later.isEmpty then [' '] else []
          else lineEnd
        let (body, after) := blockLines folded chomping indent fuel later next
        (ends ++ line ++ joint ++ body, after)
      else
        let tail := match chomping with
          | .strip => []
          | .clip => lineEnd
          | .keep => lineEnd ++ later
        (ends ++ line ++ tail, next)

/-- A block of lines that begins with its indicator, and the place after it.  It is indented to
    `least` at least, and further than the structure around it. -/
def blockScalar (least : Nat) (p : Place) : String × Place :=
  let header := p.rest.takeWhile (!endsLine ·)
  let (chomping, depth) := blockMarks ((header.drop 1).takeWhile (· ≠ '#'))
  let body := p.rest.drop (header.length + 1)
  let floor := max least 1
  let (indent, ends, first) := match depth with
    | some depth =>
      let indent := floor + depth - 1
      let (ends, first) := blockGap indent body 0
      (indent, ends, first)
    | none =>
      let (ends, deepest, first) := blockLead body 0 0
      (max floor deepest, ends, first)
  let (text, after) := blockLines (header.head? == some '>') chomping indent
    (p.rest.length + 1) ends first
  (String.ofList text, after)

example : (plainScalar false 0 (Place.start "electric   vehicle  # x".toList)).1 =
    "electric   vehicle" := by decide +kernel
example : (plainScalar false 2 (Place.start "a\n  b\nc".toList)).1 = "a b" := by decide +kernel
example : ((quotedScalar? (Place.start "'it''s'".toList)).map (·.1)) = some "it's" := by
  decide +kernel
example : (blockScalar 0 (Place.start ">-\n  a\n  b\n\n  c\n".toList)).1 = "a b\nc" := by
  decide +kernel

end NewsSearch.Yaml
