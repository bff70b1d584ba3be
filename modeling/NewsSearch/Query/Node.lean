import NewsSearch.Data.Display

/-!
Query trees.

A query is a tree of conditions: a condition on one field, all of several parts, any of several
parts, or the negation of a part.  `document` writes a tree in the query language of the service,
where `$and` and `$or` hold a list of objects, `$not` holds one object, and a condition is an object
with its field.  A combination of a single part is written exactly like that part, and `normalize`
removes such combinations from the tree.

The file has the tree, its written form, its normal form, the list of its conditions, the question
when two trees are the same, and the tree as messages show it.
-/

namespace NewsSearch

/-- A condition on one field, with the modifiers written next to it. -/
structure Condition where
  field : String
  value : Data
  modifiers : List (String × Data)

/-- A query tree. -/
inductive Node where
  | condition (c : Condition)
  | all (children : List Node)
  | any (children : List Node)
  | not (child : Node)

/-- The key of a list of parts that must all match. -/
def andKey : String := "$and"

/-- The key of a list of parts one of which must match. -/
def orKey : String := "$or"

/-- The key of a part that must not match. -/
def notKey : String := "$not"

/-! ## The written form -/

/-- A condition as an object: its field first, then its modifiers. -/
def Condition.document (c : Condition) : Record :=
  c.modifiers.foldl (fun r (name, value) => r.set name value) [(.text c.field, c.value)]

namespace Node

mutual

/-- The tree in the query language. -/
def document : Node → Record
  | .condition c => c.document
  | .all [child] => child.document
  | .all children => [(.text andKey, .list (documents children))]
  | .any [child] => child.document
  | .any children => [(.text orKey, .list (documents children))]
  | .not child => [(.text notKey, .map child.document)]

/-- The trees in the query language. -/
def documents : List Node → List Data
  | [] => []
  | child :: rest => .map child.document :: documents rest

end

/-! ## The normal form -/

/-- All of the parts; a single part stands for itself. -/
def allOf : List Node → Node
  | [child] => child
  | children => .all children

/-- Any of the parts; a single part stands for itself. -/
def anyOf : List Node → Node
  | [child] => child
  | children => .any children

mutual

/-- The tree without combinations of a single part. -/
def normalize : Node → Node
  | .condition c => .condition c
  | .all children => allOf (normalizeEach children)
  | .any children => anyOf (normalizeEach children)
  | .not child => .not child.normalize

/-- The trees without combinations of a single part. -/
def normalizeEach : List Node → List Node
  | [] => []
  | child :: rest => child.normalize :: normalizeEach rest

end

/-! ## The conditions -/

mutual

/-- The conditions of the tree, in the order in which they are written. -/
def conditions : Node → List Condition
  | .condition c => [c]
  | .all children => conditionsOf children
  | .any children => conditionsOf children
  | .not child => child.conditions

/-- The conditions of the trees, in order. -/
def conditionsOf : List Node → List Condition
  | [] => []
  | child :: rest => child.conditions ++ conditionsOf rest

end

/-! ## Sameness -/

end Node

/-- Whether two lists of modifiers are the same. -/
def sameModifiers : List (String × Data) → List (String × Data) → Bool
  | [], [] => true
  | (m, v) :: as, (n, w) :: bs => m == n && v.same w && sameModifiers as bs
  | _, _ => false

/-- Whether two conditions are the same: values are compared as values, so `1` is `1.0`. -/
def Condition.same (a b : Condition) : Bool :=
  a.field == b.field && a.value.same b.value && sameModifiers a.modifiers b.modifiers

/-- The type that keeps a condition out of a set. -/
def Condition.unhashable? (c : Condition) : Option String :=
  (c.value :: c.modifiers.map (·.2)).findSome? Data.unhashable?

namespace Node

mutual

/-- Whether two trees have the same shape and the same conditions. -/
def same : Node → Node → Bool
  | .condition a, .condition b => a.same b
  | .all as, .all bs => sameEach as bs
  | .any as, .any bs => sameEach as bs
  | .not a, .not b => a.same b
  | _, _ => false

/-- Whether two lists of trees are the same, one by one. -/
def sameEach : List Node → List Node → Bool
  | [], [] => true
  | a :: as, b :: bs => a.same b && sameEach as bs
  | _, _ => false

end

/-- The type that keeps a tree out of a set. -/
def unhashable? (n : Node) : Option String := n.conditions.findSome? (·.unhashable?)

/-- The name of the kind of node. -/
def typeName : Node → String
  | .condition _ => "Condition"
  | .all _ => "And"
  | .any _ => "Or"
  | .not _ => "Not"

end Node

/-- The condition as messages show it. -/
def Condition.shown (c : Condition) : String :=
  let modifiers := c.modifiers.map fun (name, value) => Data.tuple [.text name, value]
  s!"Condition(field={Text.quoted c.field}, value={c.value.shown}, " ++
    s!"modifiers={(Data.tuple modifiers).shown})"

namespace Node

mutual

/-- The tree as messages show it. -/
def shown : Node → String
  | .condition c => c.shown
  | .all children => "And(children=" ++ Scalar.parenthesized (shownEach children) ++ ")"
  | .any children => "Or(children=" ++ Scalar.parenthesized (shownEach children) ++ ")"
  | .not child => "Not(child=" ++ child.shown ++ ")"

/-- Each of the trees as messages show it. -/
def shownEach : List Node → List String
  | [] => []
  | child :: rest => child.shown :: shownEach rest

end

mutual

/-- Whether every combination in the tree has a part. -/
def isProper : Node → Bool
  | .condition _ => true
  | .all children => !children.isEmpty && areProper children
  | .any children => !children.isEmpty && areProper children
  | .not child => child.isProper

/-- Whether every combination in the trees has a part. -/
def areProper : List Node → Bool
  | [] => true
  | child :: rest => child.isProper && areProper rest

end

/-! ## Laws -/

@[simp] theorem document_all_singleton (n : Node) : document (.all [n]) = n.document := by
  simp [document]

@[simp] theorem document_any_singleton (n : Node) : document (.any [n]) = n.document := by
  simp [document]

theorem documents_eq_map (ns : List Node) : documents ns = ns.map fun n => .map n.document := by
  induction ns with
  | nil => rfl
  | cons n rest ih => simp [documents, ih]

theorem normalizeEach_eq_map (ns : List Node) : normalizeEach ns = ns.map normalize := by
  induction ns with
  | nil => rfl
  | cons n rest ih => simp [normalizeEach, ih]

theorem conditionsOf_eq_flatMap (ns : List Node) : conditionsOf ns = ns.flatMap conditions := by
  induction ns with
  | nil => rfl
  | cons n rest ih => simp [conditionsOf, ih]

example : (Node.all [.any [.condition ⟨"lang", .text "eng", []⟩]]).document =
    [(.text "lang", .text "eng")] := rfl
example : (Node.not (.condition ⟨"lang", .text "eng", []⟩)).shown =
    "Not(child=Condition(field='lang', value='eng', modifiers=()))" := by decide +kernel
example : (Node.not (.all [.condition ⟨"lang", .text "eng", []⟩])).normalize =
    .not (.condition ⟨"lang", .text "eng", []⟩) := rfl

end Node

end NewsSearch
