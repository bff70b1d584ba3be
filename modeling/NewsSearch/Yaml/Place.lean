/-!
Places in a text.

A `Place` is what is left of a text, with the column of its first character.  Indentation decides
about structure, so every step keeps the column right.  Texts have their line breaks in one form
before they are read: `unified` turns every way to end a line into a line feed, except the two line
and paragraph separators, which are kept as they are.
-/

namespace NewsSearch.Yaml

/-- What is left of a text, and the column of its first character. -/
structure Place where
  rest : List Char
  column : Nat

/-- Whether the character ends a line. -/
def endsLine (c : Char) : Bool := c = '\n' || c = '\u2028' || c = '\u2029'

/-- Whether the character separates words on a line. -/
def isSpace (c : Char) : Bool := c = ' ' || c = '\t'

/-- Whether the character is a space or ends a line. -/
def isSeparator (c : Char) : Bool := isSpace c || endsLine c

/-- The text with its line ends in one form. -/
def unified : List Char → List Char
  | '\r' :: '\n' :: rest => '\n' :: unified rest
  | c :: rest => (if c = '\r' ∨ c = '\u0085' then '\n' else c) :: unified rest
  | [] => []

namespace Place

/-- The beginning of a text. -/
def start (text : List Char) : Place := ⟨text, 0⟩

/-- The next character, if there is one. -/
def peek (p : Place) : Option Char := p.rest.head?

/-- The column after a character. -/
def columnAfter (column : Nat) (c : Char) : Nat := if endsLine c then 0 else column + 1

/-- The place after so many characters. -/
def drop (p : Place) (n : Nat) : Place :=
  ⟨p.rest.drop n, (p.rest.take n).foldl columnAfter p.column⟩

/-- The place at which `rest` is what is left. -/
def goTo (p : Place) (rest : List Char) : Place := p.drop (p.rest.length - rest.length)

/-- Whether what is left begins with a separator or is empty. -/
def beginsApart : List Char → Bool
  | [] => true
  | c :: _ => isSeparator c

/-- Whether a mark of three characters stands at the beginning of a line, on its own. -/
def hasMark (p : Place) (c : Char) : Bool :=
  p.column == 0 && p.rest.take 3 == [c, c, c] && beginsApart (p.rest.drop 3)

/-- Whether a document begins here. -/
def beginsDocument (p : Place) : Bool := p.hasMark '-'

/-- Whether the document ends here. -/
def isEnd (p : Place) : Bool := p.rest.isEmpty || p.hasMark '-' || p.hasMark '.'

/-- Skips spaces, comments and line ends; `inComment` tells whether a comment is being skipped, and
    `crossed` whether a line has ended on the way. -/
def skipFrom (inComment crossed : Bool) (column : Nat) : List Char → Place × Bool
  | [] => (⟨[], column⟩, crossed)
  | c :: rest =>
    if endsLine c then skipFrom false true 0 rest
    else if inComment || c = ' ' then skipFrom inComment crossed (column + 1) rest
    else if c = '#' then skipFrom true crossed (column + 1) rest
    else (⟨c :: rest, column⟩, crossed)

/-- The place of the next thing that counts, and whether it is on a later line. -/
def skip (p : Place) : Place × Bool := skipFrom false false p.column p.rest

/-- Whether an indicator stands here, followed by a separator. -/
def hasIndicator (p : Place) (c : Char) : Bool :=
  p.peek == some c && beginsApart (p.rest.drop 1)

end Place

example : unified "a\r\nb\rc".toList = "a\nb\nc".toList := by decide
example : ((Place.start "  # x\n  a".toList).skip).1.column = 2 := by decide

end NewsSearch.Yaml
