import NewsSearch.Yaml.ScalarText
import NewsSearch.Yaml.Tag

/-!
Reading documents.

Structure shows in two ways.  In a block it shows by indentation: the items of a list begin with a
dash, the entries of a mapping with a key and a colon, and all of them stand in one column.  In a
flow it shows by brackets and commas.  A node may be given a name, under which it can be used again
later on.

A reader is a function of what it knows, which is where it is, the handles of tags, and the trees
that have names so far.  Every reader of nested structure takes fuel; `fuelFor` is enough for a
text, since only a bounded number of steps is made between two characters.
-/

namespace NewsSearch.Yaml

/-- What a reader knows: where it is, the handles of tags, and the trees that have names. -/
structure Scan where
  place : Place
  handles : Handles
  named : List (String × Tree)

/-- A reader. -/
abbrev Reading (α : Type) := StateT Scan Option α

namespace Reading

/-- Reads nothing and fails. -/
def fail {α : Type} : Reading α := fun _ => none

/-- Where the reader is. -/
def here : Reading Place := fun s => some (s.place, s)

/-- Goes to a place. -/
def moveTo (p : Place) : Reading Unit := fun s => some ((), { s with place := p })

/-- Goes on by one character. -/
def step : Reading Unit := fun s => some ((), { s with place := s.place.drop 1 })

/-- Skips spaces, comments and line ends, and gives the place reached. -/
def skip : Reading Place := fun s =>
  let p := s.place.skip.1
  some (p, { s with place := p })

/-- Names a tree; a name is given once only. -/
def name (name : String) (t : Tree) : Reading Unit := fun s =>
  if (s.named.lookup name).isSome then none
  else some ((), { s with named := (name, t) :: s.named })

/-- The handles of tags. -/
def handles : Reading Handles := fun s => some (s.handles, s)

/-- The tree of a given name. -/
def named (name : String) : Reading Tree := fun s => (s.named.lookup name).map (·, s)

/-- The result of a reader, if it has one. -/
def ofOption {α : Type} (x : Option α) : Reading α := fun s => x.map (·, s)

/-- Whether a reader would succeed here; the reader stays where it is. -/
def wouldRead {α : Type} (r : Reading α) : Reading Bool := fun s => some ((r s).isSome, s)

end Reading

open Reading

/-! ## Names and tags -/

/-- What is written before a node: a name for it, and a tag. -/
structure Properties where
  name : Option String
  tag : Option String

/-- The properties of a node, of which some are found, and the place after each with the spaces
    behind it. -/
def propertiesFrom? (handles : Handles) : Nat → Properties → Place → Option (Properties × Place)
  | 0, found, p => some (found, p)
  | left + 1, found, p =>
    let pastSpaces (p : Place) : Place := p.drop (p.rest.takeWhile (· = ' ')).length
    match p.peek with
    | some '&' =>
      let word := (p.rest.drop 1).takeWhile isNameMark
      propertiesFrom? handles left { found with name := some (String.ofList word) }
        (pastSpaces (p.drop (word.length + 1)))
    | some '!' => do
      let (tag, rest) ← tagAt? handles p.rest
      propertiesFrom? handles left { found with tag := some tag } (pastSpaces (p.goTo rest))
    | _ => some (found, p)

/-- The properties that stand here, and the place after them; there are two at most. -/
def properties (p : Place) : Reading (Properties × Place) := do
  ofOption (propertiesFrom? (← handles) 2 ⟨none, none⟩ p)

/-- Whether there are no properties. -/
def Properties.isEmpty (x : Properties) : Bool := x.name.isNone && x.tag.isNone

/-- Gives a tree its properties. -/
def giveProperties (x : Properties) (t : Tree) : Reading Tree := do
  let t := match x.tag with
    | some tag => t.tagged tag
    | none => t
  match x.name with
  | some n => Reading.name n t
  | none => pure ()
  return t

/-! ## Leaves -/

/-- The characters that cannot begin an unquoted scalar unless something follows them. -/
def conditionalMarks : List Char := ['-', '?', ':']

/-- The characters that cannot begin an unquoted scalar. -/
def reservedMarks : List Char :=
  [',', '[', ']', '{', '}', '#', '&', '*', '!', '|', '>', '\'', '"', '%', '@', '\x60']

/-- Whether an unquoted scalar begins here. -/
def startsPlain (flow : Bool) (p : Place) : Bool :=
  match p.rest with
  | [] => false
  | c :: rest =>
    if conditionalMarks.contains c then !Place.beginsApart rest && (c = '-' || !flow)
    else !isSeparator c && !reservedMarks.contains c

/-- The tree to which a star and a name refer. -/
def reference : Reading Tree := do
  let p ← here
  let word := (p.rest.drop 1).takeWhile isNameMark
  moveTo (p.drop (word.length + 1))
  named (String.ofList word)

/-- A scalar in quotes. -/
def quotedLeaf : Reading Tree := do
  let (s, p) ← ofOption (quotedScalar? (← here))
  moveTo p
  return .scalar .text s

/-- A scalar without quotes that may go on on later lines. -/
def plainLeaf (flow : Bool) (least : Nat) : Reading Tree := do
  let p ← here
  if startsPlain flow p then
    let (s, p) := plainScalar flow least p
    moveTo p
    return .scalar (.ofPlain s) s
  else fail

/-- A scalar without quotes that ends on its line. -/
def plainKey : Reading Tree := do
  let p ← here
  if startsPlain false p then
    let (s, p) := plainLine p
    moveTo p
    return .scalar (.ofPlain s) s
  else fail

/-- A scalar that is a block of lines. -/
def blockLeaf (least : Nat) : Reading Tree := do
  let (s, p) := blockScalar least (← here)
  moveTo p
  return .scalar .text s

/-! ## Flows -/

/-- The characters before which a node of a flow is left out. -/
def flowGaps : List Char := [',', ']', '}', ':']

mutual

/-- A node of a flow; nothing stands for one that is left out. -/
def flowNode : Nat → Reading Tree
  | 0 => fail
  | fuel + 1 => do
    let p ← skip
    let (found, q) ← properties p
    if !found.isEmpty then
      moveTo q
      let t ← flowNode fuel
      giveProperties found t
    else
      match p.peek with
      | none => fail
      | some c =>
        if flowGaps.contains c then return Tree.blank
        else if c = '[' then
          step
          return .list (← flowItems fuel)
        else if c = '{' then
          step
          return .map (← flowEntries fuel)
        else if c = '*' then reference
        else if c = '\'' ∨ c = '"' then quotedLeaf
        else plainLeaf true 0

/-- The items of a list in brackets, after the opening bracket.  An item with a colon is a mapping
    of one entry. -/
def flowItems : Nat → Reading (List Tree)
  | 0 => fail
  | fuel + 1 => do
    let p ← skip
    if p.peek == some ']' then
      step
      return []
    else
      let (key, value?) ← flowEntry fuel
      let item := match value? with
        | some value => .map [(key, value)]
        | none => key
      let p ← skip
      step
      match p.peek with
      | some ',' => return item :: (← flowItems fuel)
      | some ']' => return [item]
      | _ => fail

/-- The entries of a mapping in braces, after the opening brace. -/
def flowEntries : Nat → Reading (List (Tree × Tree))
  | 0 => fail
  | fuel + 1 => do
    let p ← skip
    if p.peek == some '}' then
      step
      return []
    else
      let (key, value?) ← flowEntry fuel
      let entry := (key, value?.getD Tree.blank)
      let p ← skip
      step
      match p.peek with
      | some ',' => return entry :: (← flowEntries fuel)
      | some '}' => return [entry]
      | _ => fail

/-- A node of a flow and, when a colon follows, the value under it. -/
def flowEntry : Nat → Reading (Tree × Option Tree)
  | 0 => fail
  | fuel + 1 => do
    let p ← skip
    let marked := p.peek == some '?'
    if marked then step
    let key ← flowNode fuel
    let p ← skip
    if p.peek == some ':' then
      step
      let value ← flowNode fuel
      return (key, some value)
    else return (key, if marked then some Tree.blank else none)

end

/-! ## Blocks -/

/-- A node that may be a key: a reference, a scalar on one line, or a flow. -/
def keyNode (fuel : Nat) : Reading Tree := do
  let p ← here
  match p.peek with
  | some '*' => reference
  | some '\'' => quotedLeaf
  | some '"' => quotedLeaf
  | some '[' => flowNode fuel
  | some '{' => flowNode fuel
  | _ => plainKey

/-- A key with the colon behind it, all on one line.  A key that has properties may be left out. -/
def keyWithColon (fuel : Nat) : Reading Tree := do
  let p ← here
  let (found, q) ← properties p
  moveTo q
  let key ← if !found.isEmpty && q.hasIndicator ':' then pure Tree.blank else keyNode fuel
  let key ← giveProperties found key
  let q ← here
  let q := q.drop (q.rest.takeWhile (· = ' ')).length
  if q.hasIndicator ':' && q.column = p.column + (p.rest.length - q.rest.length) then
    moveTo (q.drop 1)
    return key
  else fail

/-- Whether a scalar that is a block of lines begins here. -/
def beginsLines (p : Place) : Bool := p.peek == some '|' || p.peek == some '>'

/-- A node of a block that is neither a list nor a mapping in a block. -/
def leaf (fuel least : Nat) : Reading Tree := do
  let p ← here
  match p.peek with
  | some '*' => reference
  | some '\'' => quotedLeaf
  | some '"' => quotedLeaf
  | some '[' => flowNode fuel
  | some '{' => flowNode fuel
  | some '|' => blockLeaf least
  | some '>' => blockLeaf least
  | _ => plainLeaf false least

mutual

/-- A node of a block.  It stands in column `least` at least; a block of lines may begin one column
    before, and with `dashes` so may a list.  With `fresh`, a list or a mapping may begin on this
    line.  Nothing stands for a node that is left out. -/
def blockNode (least : Nat) (dashes : Bool) : Nat → Bool → Reading Tree
  | 0, _ => fail
  | fuel + 1, fresh => do
    let crossed := (← here).skip.2
    let p ← skip
    let fresh := fresh || crossed
    let (found, q) ← properties p
    if p.isEnd then return Tree.blank
    else if fresh && p.hasIndicator '-' then
      if least ≤ p.column || (dashes && least = p.column + 1) then
        return .list (← blockItems p.column fuel)
      else return Tree.blank
    else if p.column < least then
      if p.column + 1 = least && beginsLines p then leaf fuel least else return Tree.blank
    else if fresh && (p.hasIndicator '?' || (← wouldRead (keyWithColon fuel))) then
      return .map (← blockEntries p.column fuel)
    else if !found.isEmpty then
      moveTo q
      let t ← blockNode least dashes fuel false
      giveProperties found t
    else leaf fuel least

/-- The items of a list in a column; the reader is at the dash of the first one. -/
def blockItems (column : Nat) : Nat → Reading (List Tree)
  | 0 => fail
  | fuel + 1 => do
    step
    let item ← blockNode (column + 1) false fuel true
    let p ← skip
    if p.column = column && p.hasIndicator '-' && !p.isEnd then
      return item :: (← blockItems column fuel)
    else return [item]

/-- The entries of a mapping in a column; the reader is at the beginning of the first one. -/
def blockEntries (column : Nat) : Nat → Reading (List (Tree × Tree))
  | 0 => fail
  | fuel + 1 => do
    let entry ← blockEntry column fuel
    let p ← skip
    if p.column = column && !p.isEnd then return entry :: (← blockEntries column fuel)
    else return [entry]

/-- An entry of a mapping in a column.  The key of an entry that begins with a question mark may be
    any node. -/
def blockEntry (column : Nat) : Nat → Reading (Tree × Tree)
  | 0 => fail
  | fuel + 1 => do
    let p ← here
    if p.hasIndicator '?' then
      step
      let key ← blockNode (column + 1) true fuel true
      let p ← skip
      if p.column = column && p.hasIndicator ':' then
        step
        return (key, ← blockNode (column + 1) true fuel true)
      else return (key, Tree.blank)
    else
      let key ← keyWithColon fuel
      return (key, ← blockNode (column + 1) true fuel false)

end

/-! ## Documents -/

/-- Enough fuel for a text. -/
def fuelFor (p : Place) : Nat := 4 * p.rest.length + 16

/-- What follows the lines of directives at the beginning of a text, and the handles that they bring
    before the standard ones. -/
def pastDirectives : Nat → Place → Handles × Place
  | 0, p => (standardHandles, p)
  | left + 1, p =>
    let p := p.skip.1
    if p.column = 0 && p.peek == some '%' then
      let line := p.rest.takeWhile (!endsLine ·)
      let (handles, next) := pastDirectives left (p.drop line.length)
      ((directiveHandle? line).toList ++ handles, next)
    else (standardHandles, p)

/-- The place after the marks that end a document. -/
def pastEnds : Nat → Place → Place
  | 0, p => p
  | left + 1, p =>
    let p := p.skip.1
    if p.hasMark '.' then pastEnds left (p.drop 3) else p

/-- The single document of a text; an empty one is nothing. -/
def document : Reading Tree := do
  let p ← here
  let begins := p.beginsDocument
  let p := if begins then p.drop 3 else p
  moveTo p
  let t ← blockNode 0 false (fuelFor p) (!begins)
  let p ← here
  if (pastEnds p.rest.length p).rest.isEmpty then return t else fail

/-- The mark with which a text may begin. -/
def byteOrderMark : Char := '\ufeff'

/-- Whether a text may hold the character. -/
def isAllowedChar (c : Char) : Bool :=
  c = '\t' || c = '\n' || c = '\r' || (0x20 ≤ c.toNat && c.toNat ≤ 0x7e) || c.toNat = 0x85 ||
    (0xa0 ≤ c.toNat && c.toNat ≤ 0xfffd) || 0x10000 ≤ c.toNat

/-- Whether a text may hold the code point. -/
def isAllowed : Text.CodePoint → Bool
  | .char c => isAllowedChar c
  | .surrogate _ => false

/-- The tree of the single document of a text. -/
def treeOf? (text : String) : Option Tree :=
  let cs := text.toList
  if (Text.codePoints cs).all isAllowed then
    let cs := if cs.head? = some byteOrderMark then cs.drop 1 else cs
    let start := Place.start (unified cs)
    let (handles, p) := pastDirectives start.rest.length start
    (document ⟨p, handles, []⟩).map (·.1)
  else none

/-- The value of the single document of a text. -/
def read (text : String) : Except Fault Data :=
  match treeOf? text with
  | some t => t.data
  | none => .error (.failure "the text is not a well-formed document")

example : (treeOf? "a:\n- 1\n- b: {c: [x, y]}\n").isSome = true := by decide +kernel
example : (treeOf? "a: [1").isSome = false := by decide +kernel

end NewsSearch.Yaml
