import NewsSearch.Mapping

/-!
Layers of configuration.

A file is laid over the defaults: where both have an object the objects are merged, and everywhere
else the file wins, so lists are replaced as a whole.
-/

namespace NewsSearch.Config

mutual

/-- The value that results from laying `layer` on the value that was there before. -/
def mergeValue (old : Option Data) (layer : Data) : Data :=
  match layer with
  | .map changes =>
    match old with
    | some (.map base) => .map (mergeEntries base changes)
    | _ => .map changes
  | d => d

/-- The entries that result from laying entries over others, one after the other. -/
def mergeEntries (base : Record) (layer : List (Scalar × Data)) : Record :=
  match layer with
  | [] => base
  | (key, value) :: rest =>
    mergeEntries (base.insert key (mergeValue (base.find? key) value)) rest

end

/-- The configuration that results from laying `layer` on `base`. -/
def merge (base layer : Record) : Record := mergeEntries base layer

/-- Lays one value on another: the lower one may be a sequence of pairs, the upper one is asked for
    its entries. -/
def mergeGiven (base layer : Data) : Except Fault Record := do
  let lower ← base.gathered
  let upper ← layer.entriesBy "items"
  .ok (merge lower upper)

/-- Laying nothing over a configuration changes nothing. -/
@[simp] theorem merge_nil (base : Record) : merge base [] = base := by simp [merge, mergeEntries]

example : merge [(.text "a", .map [(.text "x", .int 1)])]
    [(.text "a", .map [(.text "y", .int 2)]), (.text "b", .null)] =
    [(.text "a", .map [(.text "x", .int 1), (.text "y", .int 2)]), (.text "b", .null)] := by
  simp [merge, mergeEntries, mergeValue, Record.insert, Record.find?]

end NewsSearch.Config
