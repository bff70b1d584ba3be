import Mathlib.Data.List.Forall2
import NewsSearch.Proofs.Query.DocumentReading
import NewsSearch.Proofs.Query.Vocabulary

/-!
The grammar of query documents.

A document is an object with the tree under `$query` and perhaps filters under `$filter`.  The
relations here say which values are documents and what they stand for, one rule for each form that
the language has: `Object d n` holds when `d` is an object of the language and stands for the tree
`n`, and so on up to `Source`, for a document that is given as an object or as JSON text.

The rules look at the object alone.  They have no paths, no order of checks and no bookkeeping of
modifiers: a modifier needs a value that it may have and its field in the same object, wherever the
two stand in it.
-/

namespace NewsSearch.Grammar

open Calendar ParsedDocument

/-! ## Fields

A field is the only entry with values under it. -/

/-- What may stand under a field: a single value, a list of values, which combine as the field says,
    or a list of values under the way in which they combine. -/
inductive Item (f : Field) : Data → Mode → List Scalar → Prop
  | single (s : Scalar) : Item f (.scalar s) f.defaultMode [s]
  | list (values : List Scalar) : Item f (.list (values.map .scalar)) f.defaultMode values
  | group (mode : Mode) (values : List Scalar) :
      Item f (.map [(.text (groupKey mode), .list (values.map .scalar))]) mode values

/-- The modifier that the conditions of a field have in an object: its own, if it stands there. -/
def modifiersOf (object : Record) (f : Field) : List (String × Data) :=
  match f.modifier with
  | none => []
  | some name => ((object.get? name).map fun v => (name, v)).toList

/-- The condition that the field has a value, with its modifier in the object. -/
def conditionOf (object : Record) (f : Field) (v : Data) : Condition :=
  ⟨f.key, v, modifiersOf object f⟩

/-- What stands under a field stands for a tree: there is a value, each value is one of the field,
    and only fields of several values have more than one.  Every value gives a condition with the
    modifier of the object. -/
inductive FieldEntry [MomentReader] (object : Record) (f : Field) : Data → Node → Prop
  | mk {item : Data} {mode : Mode} {values : List Scalar} {sent : List Data}
      (form : Item f item mode values) (nonempty : values ≠ [])
      (several : 1 < values.length → f.multi = true) (sends : List.Forall₂ f.Sends values sent) :
      FieldEntry object f item
        (.joined mode (sent.map fun v => .condition (conditionOf object f v)))

/-! ## Objects

Objects, their entries and lists of objects are defined together, since groups and negations have
objects in them. -/

/-- Every modifier in an object has one of its values, and its field is a key of the object too. -/
def ModifiersFit (object : Record) : Prop :=
  ∀ name ∈ Field.modifierNames, ∀ v, object.get? name = some v →
    AllowedModifier name v ∧
      ∃ f ∈ Field.vocabulary, f.modifier = some name ∧ object.contains (.text f.key) = true

mutual

/-- An object stands for all of its entries; a single entry stands for itself. -/
inductive Object [MomentReader] : Data → Node → Prop
  | mk {object : Record} {nodes : List Node} (nonempty : object ≠ [])
      (modifiers : ModifiersFit object) (entries : Entries object object nodes) :
      Object (.map object) (.allOf nodes)

/-- Entries of an object stand for trees, in order. -/
inductive Entries [MomentReader] : Record → List (Scalar × Data) → List Node → Prop
  | nil {object : Record} : Entries object [] []
  /-- A modifier is no tree of its own. -/
  | modifier {object : Record} {name : String} {item : Data} {rest : List (Scalar × Data)}
      {nodes : List Node} (known : name ∈ Field.modifierNames)
      (others : Entries object rest nodes) :
      Entries object ((.text name, item) :: rest) nodes
  | node {object : Record} {key : String} {item : Data} {rest : List (Scalar × Data)} {n : Node}
      {nodes : List Node} (first : Entry object key item n) (others : Entries object rest nodes) :
      Entries object ((.text key, item) :: rest) (n :: nodes)

/-- An entry of an object stands for a tree. -/
inductive Entry [MomentReader] : Record → String → Data → Node → Prop
  /-- `$and` and `$or` have a list of objects that is not empty. -/
  | group {object : Record} {objects : List Data} {nodes : List Node} (mode : Mode)
      (nonempty : objects ≠ []) (each : Objects objects nodes) :
      Entry object (groupKey mode) (.list objects) (.joined mode nodes)
  /-- `$not` has an object. -/
  | not {object : Record} {item : Data} {n : Node} (negated : Object item n) :
      Entry object notKey item (.not n)
  | field {object : Record} {f : Field} {item : Data} {n : Node} (known : f ∈ Field.vocabulary)
      (entry : FieldEntry object f item n) : Entry object f.key item n

/-- Objects stand for trees, one by one. -/
inductive Objects [MomentReader] : List Data → List Node → Prop
  | nil : Objects [] []
  | cons {d : Data} {n : Node} {rest : List Data} {nodes : List Node} (first : Object d n)
      (others : Objects rest nodes) : Objects (d :: rest) (n :: nodes)

end

/-! ## Documents

A document is an object, too, but with keys of its own. -/

/-- What stands for filters: nothing, or an object with the settings of known filters. -/
inductive FilterEntry : Data → Filters → Prop
  | none : FilterEntry .null []
  | object (filters : Filters) (known : ∀ p ∈ filters, Filters.IsFilter p.1 p.2) :
      FilterEntry (.map filters.document) filters

/-- An object is a document: it has a tree and perhaps filters, and nothing else. -/
structure Document [MomentReader] (document : Record) (p : ParsedDocument) : Prop where
  keys : ∀ e ∈ document, e.1 = .text queryKey ∨ e.1 = .text filterKey
  root : ∃ query, document.get? queryKey = some query ∧ Object query p.root
  filters : FilterEntry (document.getD filterKey) p.filters

/-- A document is given as an object, or as a text that is read as one. -/
inductive Source [MomentReader] : Data → ParsedDocument → Prop
  | object {document : Record} {p : ParsedDocument} (fits : Document document p) :
      Source (.map document) p
  | text {s : String} {document : Record} {p : ParsedDocument}
      (reads : Json.read s = .ok (.map document)) (fits : Document document p) :
      Source (.text s) p

end NewsSearch.Grammar
