import NewsSearch.Data.Scalar

/-!
Loosely typed values.

A `Data` is a scalar, a list, a tuple or a mapping from scalars to data.  Mappings keep the order in
which keys were first inserted, because that order shows in every text made from them: a repeated
key keeps its first place and takes its last value.  A `Record` is the list of entries of a mapping.

The second half says what programs ask of any value: whether it counts as true, whether two values
count as the same, which elements it runs over, and whether it may serve as a member of a set.
-/

namespace NewsSearch

open Calendar

/-- A loosely typed value. -/
inductive Data where
  | scalar (s : Scalar)
  | list (items : List Data)
  | tuple (items : List Data)
  | map (entries : List (Scalar × Data))

/-- The entries of a mapping in order. -/
abbrev Record := List (Scalar × Data)

namespace Data

/-- No value. -/
@[match_pattern] abbrev null : Data := .scalar .null
/-- A truth value. -/
@[match_pattern] abbrev bool (b : Bool) : Data := .scalar (.bool b)
/-- An integer. -/
@[match_pattern] abbrev int (n : Int) : Data := .scalar (.int n)
/-- A decimal number. -/
@[match_pattern] abbrev float (x : Float) : Data := .scalar (.float x)
/-- A text. -/
@[match_pattern] abbrev text (s : String) : Data := .scalar (.text s)
/-- A day. -/
@[match_pattern] abbrev date (d : Date) : Data := .scalar (.date d)
/-- A moment. -/
@[match_pattern] abbrev moment (m : Moment) : Data := .scalar (.moment m)

instance : Inhabited Data := ⟨null⟩

end Data

/-! ## Records -/

namespace Record

/-- The value under the first key that is the same as `key`. -/
def find? (key : Scalar) : Record → Option Data
  | [] => none
  | (k, v) :: rest => if k.same key then some v else find? key rest

/-- The value under a text key. -/
def get? (name : String) (r : Record) : Option Data := r.find? (.text name)

/-- The value under a text key, or nothing. -/
def getD (name : String) (r : Record) : Data := (r.get? name).getD .null

/-- Whether some key is the same as `key`. -/
def contains (key : Scalar) (r : Record) : Bool := r.any fun (k, _) => k.same key

/-- Sets the value under a key: in place when the key is there, otherwise at the end. -/
def insert (key : Scalar) (value : Data) : Record → Record
  | [] => [(key, value)]
  | (k, v) :: rest => if k.same key then (k, value) :: rest else (k, v) :: insert key value rest

/-- Sets the value under a text key. -/
def set (name : String) (value : Data) (r : Record) : Record := r.insert (.text name) value

/-- Sets every entry of `changes` in order. -/
def update (r changes : Record) : Record :=
  changes.foldl (fun r (k, v) => r.insert k v) r

/-- The mapping that results from setting the pairs one after the other. -/
def ofPairs (pairs : List (Scalar × Data)) : Record := update [] pairs

/-- A record with text keys. -/
def ofTexts (pairs : List (String × Data)) : Record := pairs.map fun (name, v) => (.text name, v)

/-- The keys in order. -/
def keys (r : Record) : List Scalar := r.map (·.1)

@[simp] theorem find?_nil (key : Scalar) : find? key [] = none := rfl

/-- Looking up the text key that was just set gives the value set. -/
theorem get?_set_self (name : String) (value : Data) (r : Record) :
    (r.set name value).get? name = some value := by
  induction r with
  | nil => simp [set, insert, get?, find?]
  | cons e rest ih =>
    obtain ⟨k, v⟩ := e
    simp only [set, insert, get?] at ih ⊢
    split
    · next h => simp [find?, h]
    · next h => simp [find?, h, ih]

end Record

/-! ## What is asked of any value -/

namespace Data

/-- The name of the value's type. -/
def typeName : Data → String
  | scalar s => s.typeName
  | list _ => "list"
  | tuple _ => "tuple"
  | map _ => "dict"

/-- The name of the value's type with its family. -/
def fullTypeName : Data → String
  | scalar s => s.fullTypeName
  | d => d.typeName

/-- Whether the value counts as true: a collection does when it has elements. -/
def truthy : Data → Bool
  | scalar s => s.truthy
  | list items => !items.isEmpty
  | tuple items => !items.isEmpty
  | map entries => !entries.isEmpty

mutual

/-- The value that a key is: a tuple is one by itself, not as a scalar. -/
def ofKey : Scalar → Data
  | .tuple items => tuple (ofKeys items)
  | s => scalar s

/-- The values that keys are. -/
def ofKeys : List Scalar → List Data
  | [] => []
  | s :: rest => ofKey s :: ofKeys rest

end

/-- The elements that the value runs over: those of a list or a tuple, the code points of a text,
    the keys of a mapping; other values have none to run over. -/
def elements? : Data → Option (List Data)
  | list items => some items
  | tuple items => some items
  | text s => some ((Text.codePoints s.toList).map fun p => text (Text.textOf [p]))
  | map entries => some (entries.map fun (k, _) => ofKey k)
  | _ => none

mutual

/-- The type that keeps the value out of a set: a list or a mapping, perhaps inside a tuple. -/
def unhashable? : Data → Option String
  | scalar _ => none
  | list _ => some "list"
  | map _ => some "dict"
  | tuple items => firstUnhashable? items

/-- The first type among the items that keeps a value out of a set. -/
def firstUnhashable? : List Data → Option String
  | [] => none
  | item :: rest => (unhashable? item).or (firstUnhashable? rest)

end

mutual

/-- Whether two values count as the same.  The order of a mapping's entries does not matter. -/
def same : Data → Data → Bool
  | scalar a, scalar b => a.same b
  | list as, list bs => sameItems as bs
  | tuple as, tuple bs => sameItems as bs
  | map as, map bs => as.length == bs.length && sameEntries as bs
  | _, _ => false

/-- Whether two lists have the same items in order. -/
def sameItems : List Data → List Data → Bool
  | [], [] => true
  | a :: as, b :: bs => same a b && sameItems as bs
  | _, _ => false

/-- Whether each of the entries is found in `other` with the same value. -/
def sameEntries : List (Scalar × Data) → Record → Bool
  | [], _ => true
  | (k, v) :: rest, other =>
    (match other.find? k with
     | some w => same v w
     | none => false) && sameEntries rest other

end

/-- The text, if the value is one. -/
def text? : Data → Option String
  | text s => some s
  | _ => none

/-- The integer, if the value is one; truth values are not integers here. -/
def int? : Data → Option Int
  | int n => some n
  | _ => none

/-- The entries, if the value is a mapping. -/
def entries? : Data → Option Record
  | map entries => some entries
  | _ => none

end Data

example : Record.insert (.text "a") (.int 2) [(.text "a", .int 1), (.text "b", .null)] =
    [(.text "a", .int 2), (.text "b", .null)] := rfl
example : Data.same (.map [(.text "a", .int 1), (.text "b", .int 2)])
    (.map [(.text "b", .int 2), (.text "a", .bool true)]) = true := by decide
example : Data.unhashable? (.tuple [.int 1, .list []]) = some "list" := by decide

end NewsSearch
