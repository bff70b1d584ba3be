import NewsSearch.Yaml.Place
import NewsSearch.Yaml.Tree

/-!
Tags.

A tag says what a node is taken for.  It is written in full between angle brackets, or as a handle
and the rest of its name; a handle stands for the beginning of a name, and a document may bring
handles of its own.  The lone mark `!` says that a scalar is to be taken as if it had no quotes.

Only the tags of the common family are known: those of the kinds of scalars, of lists and mappings,
of sets, and of lists of pairs.
-/

namespace NewsSearch.Yaml

open Text

/-- The beginning of the names of the tags that are known. -/
def commonFamily : String := "tag:yaml.org,2002:"

/-- Handles, each with the beginning of a name for which it stands. -/
abbrev Handles := List (String × String)

/-- The handles that every document has. -/
def standardHandles : Handles := [("!", "!"), ("!!", commonFamily)]

/-- The tag that is written as a lone mark. -/
def plainTag : String := "!"

/-! ## Reading tags -/

/-- Whether the character may stand in a handle between its marks, or in the name of a node. -/
def isNameMark (c : Char) : Bool := c.isAlphanum || c = '-' || c = '_'

/-- Whether the character may stand in the name of a tag. -/
def isTagMark (c : Char) : Bool := c.isAlphanum || "-;/?:@&=+$,_.!~*'()[]%".toList.contains c

/-- The bytes of characters in which a percent sign and two hexadecimal digits stand for a byte. -/
def percentBytes? : List Char → Option (List UInt8)
  | [] => some []
  | '%' :: a :: b :: rest => do
    let n ← hexValue? [a, b]
    let others ← percentBytes? rest
    some (UInt8.ofNat n :: others)
  | c :: rest =>
    if c = '%' then none else (percentBytes? rest).map (UInt8.ofNat c.toNat :: ·)

/-- The name that the characters of a tag stand for. -/
def tagName? (cs : List Char) : Option String := do
  let bytes ← percentBytes? cs
  String.fromUTF8? ⟨bytes.toArray⟩

/-- The name of a tag that begins here, and the rest. -/
def nameAt? (cs : List Char) : Option (String × List Char) :=
  let word := cs.takeWhile isTagMark
  if word.isEmpty then none else (tagName? word).map (·, cs.drop word.length)

/-- The handle that begins here with its mark, and the rest: a mark alone, or a word between two
    marks. -/
def handleAt (cs : List Char) : String × List Char :=
  let word := (cs.drop 1).takeWhile isNameMark
  match cs.drop (word.length + 1) with
  | '!' :: rest => (String.ofList ('!' :: word ++ ['!']), rest)
  | _ => ("!", cs.drop 1)

/-- The tag that begins here with its mark, and the rest. -/
def tagAt? (handles : Handles) (cs : List Char) : Option (String × List Char) := do
  let (tag, rest) ← match cs.drop 1 with
    | '<' :: body => do
      let (name, rest) ← nameAt? body
      match rest with
      | '>' :: rest => some (name, rest)
      | _ => none
    | rest =>
      if Place.beginsApart rest then some (plainTag, rest)
      else do
        let (handle, rest) := handleAt cs
        let start ← handles.lookup handle
        let (name, rest) ← nameAt? rest
        some (start ++ name, rest)
  if Place.beginsApart rest then some (tag, rest) else none

/-- The handle that a line of directives brings, if it is such a line. -/
def directiveHandle? (line : List Char) : Option (String × String) :=
  let spaces (cs : List Char) : List Char := cs.dropWhile (· = ' ')
  if "%TAG ".toList.isPrefixOf line then do
    let (handle, rest) := handleAt (spaces (line.drop 5))
    let (start, _) ← nameAt? (spaces rest)
    some (handle, start)
  else none

/-! ## Giving tags -/

/-- The kinds of scalars by the names of their tags in the common family. -/
def kindNames : List (String × ScalarKind) := [
  ("null", .null), ("bool", .bool), ("int", .int), ("float", .float), ("timestamp", .stamp),
  ("str", .text), ("binary", .binary), ("merge", .merge), ("value", .value)]

/-- The kind of scalars under a tag. -/
def kindOfTag? (tag : String) : Option ScalarKind :=
  (kindNames.find? fun (name, _) => commonFamily ++ name = tag).map (·.2)

/-- The entry of a mapping that has one only. -/
def onlyEntry? : Tree → Option (Tree × Tree)
  | .map [entry] | .set [entry] => some entry
  | _ => none

/-- The node under a tag that does not fit.  Whether a node is a list or a mapping, as its tag says,
    is asked only when its parts are looked at. -/
def misfitUnder (tag : String) (node : Tree) : Tree :=
  .misfit (if ["seq", "map", "set", "omap", "pairs"].any (commonFamily ++ · = tag) then 1 else 0) node

/-- The tree under a tag. -/
def Tree.tagged (tag : String) (t : Tree) : Tree :=
  match t with
  | .scalar _ s =>
    if tag = plainTag then .scalar (.ofPlain s) s
    else
      match kindOfTag? tag with
      | some kind => .scalar kind s
      | none => misfitUnder tag t
  | .list items =>
    if tag = plainTag ∨ tag = commonFamily ++ "seq" then .list items
    else if tag = commonFamily ++ "omap" ∨ tag = commonFamily ++ "pairs" then
      match items.mapM onlyEntry? with
      | some entries => .pairs entries
      | none => misfitUnder tag t
    else misfitUnder tag t
  | .map entries =>
    if tag = plainTag ∨ tag = commonFamily ++ "map" then .map entries
    else if tag = commonFamily ++ "set" then .set entries
    else misfitUnder tag t
  | .set _ | .pairs _ | .misfit .. => misfitUnder tag t

example : tagAt? standardHandles "!!str 5".toList = some (commonFamily ++ "str", " 5".toList) := by
  decide +kernel
example : tagAt? standardHandles "! 5".toList = some ("!", " 5".toList) := by decide +kernel
example : (tagAt? standardHandles "!<tag:yaml.org,2002:int> 5".toList).map (·.1) =
    some (commonFamily ++ "int") := by decide +kernel

end NewsSearch.Yaml
