import NewsSearch.Proofs.Query.CheckedCondition

/-!
What query documents mean.

`evaluate` gives the meaning of a document that a tree is written as, for any assignment of truth
values to conditions: `$and` is all, `$or` is any, `$not` is negation, an object with a field is the
condition on that field, and the empty object is true.  `Node.holds` gives the meaning of the tree
itself, where a combination of a single part is nothing special.

The two agree.

1. A condition can be read off its object when its field is no operator and its modifiers are the
   entries behind the field (`Condition.IsAtomic`); then it holds where it is written
   (`evaluate_condition`).
2. A combination holds where it is written when its parts do (`evaluate_combination`).  A single
   part is written as itself, which makes no difference (`Mode.combine_singleton`).
3. The rest is an induction over trees and lists of trees.

Main statement: `evaluate_document`.
-/

namespace NewsSearch

/-- An assignment of truth values to conditions. -/
abbrev Truth := Condition → Bool

/-- Whether a combination holds, given which of its parts do. -/
def Mode.combine : Mode → List Bool → Bool
  | all, parts => parts.all id
  | any, parts => parts.any id

/-- A single part is neither more nor less than its combination. -/
theorem Mode.combine_singleton (mode : Mode) (b : Bool) : mode.combine [b] = b := by
  cases mode with
  | all => exact Bool.and_true b
  | any => exact Bool.or_false b

/-! ## Documents

The meaning of a document is read off the document alone. -/

/-- The modifiers next to a field: the further entries of its object. -/
def modifiersIn (rest : Record) : List (String × Data) :=
  rest.filterMap fun
    | (.text name, value) => some (name, value)
    | _ => none

mutual

/-- Whether a query object holds. -/
def evaluate (truth : Truth) : Data → Bool
  | .map [] => true
  | .map ((.text key, item) :: rest) =>
    if key = andKey then Mode.all.combine (evaluateParts truth item)
    else if key = orKey then Mode.any.combine (evaluateParts truth item)
    else if key = notKey then !evaluate truth item
    else truth ⟨key, item, modifiersIn rest⟩
  | _ => false

/-- Which of the parts of a combination hold. -/
def evaluateParts (truth : Truth) : Data → List Bool
  | .list objects => evaluateEach truth objects
  | _ => []

/-- Which of the objects hold. -/
def evaluateEach (truth : Truth) : List Data → List Bool
  | [] => []
  | object :: rest => evaluate truth object :: evaluateEach truth rest

end

/-! ## Trees

The meaning of a tree is what its constructors say. -/

namespace Node

mutual

/-- Whether a tree holds. -/
def holds (truth : Truth) : Node → Bool
  | .condition c => truth c
  | .all children => Mode.all.combine (holdsEach truth children)
  | .any children => Mode.any.combine (holdsEach truth children)
  | .not child => !child.holds truth

/-- Which of the trees hold. -/
def holdsEach (truth : Truth) : List Node → List Bool
  | [] => []
  | child :: rest => child.holds truth :: holdsEach truth rest

end

/-- Trees hold one by one. -/
theorem holdsEach_eq_map (truth : Truth) (ns : List Node) :
    holdsEach truth ns = ns.map (holds truth) := by
  induction ns with
  | nil => rfl
  | cons n rest ih => rw [holdsEach, ih, List.map_cons]

/-- A combination of trees holds as its mode says; that a single tree stands for itself makes no
    difference. -/
theorem holds_joined (truth : Truth) (mode : Mode) (ns : List Node) :
    (joined mode ns).holds truth = mode.combine (ns.map (holds truth)) := by
  rw [← holdsEach_eq_map]
  cases mode <;> match ns with
    | [] => rfl
    | [n] => exact (Mode.combine_singleton _ _).symm
    | a :: b :: rest => rfl

/-- Combining trees does not change their conditions. -/
theorem conditions_joined (mode : Mode) (ns : List Node) :
    (joined mode ns).conditions = conditionsOf ns := by
  cases mode <;> match ns with
    | [] => rfl
    | [n] => exact (List.append_nil n.conditions).symm
    | a :: b :: rest => rfl

end Node

/-! ## From trees to documents

The induction follows the tree, and the document along with it. -/

/-- The condition can be read off its object: its field is no operator, and the entries after its
    field are its modifiers. -/
structure Condition.IsAtomic (c : Condition) : Prop where
  field : c.field ≠ andKey ∧ c.field ≠ orKey ∧ c.field ≠ notKey
  document : c.document = (.text c.field, c.value) :: c.modifiers.map fun m => (.text m.1, m.2)

/-- An atomic condition holds where it is written. -/
theorem evaluate_condition (truth : Truth) {c : Condition} (hc : c.IsAtomic) :
    evaluate truth (.map c.document) = truth c := by
  obtain ⟨hand, hor, hnot⟩ := hc.field
  have hmodifiers : modifiersIn (c.modifiers.map fun m => (.text m.1, m.2)) = c.modifiers := by
    rw [modifiersIn, List.filterMap_map]
    exact List.filterMap_some
  rw [hc.document, evaluate, if_neg hand, if_neg hor, if_neg hnot, hmodifiers]

/-- A combination holds where it is written when its parts do. -/
theorem evaluate_combination (truth : Truth) (mode : Mode) {ns : List Node}
    (hparts : evaluateEach truth (Node.documents ns) = Node.holdsEach truth ns) :
    evaluate truth (.map (Node.combination mode ns).document) =
      mode.combine (Node.holdsEach truth ns) := by
  match ns, hparts with
  | [n], hparts =>
    -- a single part is written as itself
    rw [Node.documents, evaluateEach, Node.documents, evaluateEach] at hparts
    rw [Node.document_combination_singleton, ← hparts, Mode.combine_singleton]
  | [], _ => cases mode <;> rfl
  | a :: b :: rest, hparts =>
    have hne : orKey ≠ andKey := by decide
    rw [← hparts]
    cases mode with
    | all => simp only [Node.combination, Node.document, evaluate, evaluateParts, if_true]
    | any =>
      simp only [Node.combination, Node.document, evaluate, evaluateParts, if_neg hne, if_true]

mutual

/-- **A tree whose conditions are atomic holds where it is written** exactly when it holds. -/
theorem evaluate_document (truth : Truth) :
    ∀ n : Node, (∀ c ∈ n.conditions, c.IsAtomic) →
      evaluate truth (.map n.document) = n.holds truth
  | .condition c, hatomic => by
    rw [Node.document, Node.holds]
    exact evaluate_condition truth (hatomic c List.mem_cons_self)
  | .not child, hatomic => by
    have hchild := evaluate_document truth child hatomic
    have hand : notKey ≠ andKey := by decide
    have hor : notKey ≠ orKey := by decide
    rw [Node.document, Node.holds, evaluate, if_neg hand, if_neg hor, if_pos rfl, hchild]
  | .all children, hatomic =>
    evaluate_combination truth .all (evaluateEach_documents truth children hatomic)
  | .any children, hatomic =>
    evaluate_combination truth .any (evaluateEach_documents truth children hatomic)

/-- Trees hold one by one where they are written. -/
theorem evaluateEach_documents (truth : Truth) :
    ∀ ns : List Node, (∀ c ∈ Node.conditionsOf ns, c.IsAtomic) →
      evaluateEach truth (Node.documents ns) = Node.holdsEach truth ns
  | [], _ => rfl
  | n :: rest, hatomic => by
    rw [Node.conditionsOf, List.forall_mem_append] at hatomic
    have hn := evaluate_document truth n hatomic.1
    have hrest := evaluateEach_documents truth rest hatomic.2
    rw [Node.documents, evaluateEach, Node.holdsEach, hn, hrest]

end

end NewsSearch
