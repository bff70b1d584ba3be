import NewsSearch.Query.Condition

/-!
Field values.

What is given for a field is nothing, a single value, several values, or values wrapped with the way
in which they combine.  `classify` decides which, once; `Field.coerce` turns the result into a
condition, or into a combination of conditions when there are several values.  Plain lists combine
by the default of the field unless another way is asked for.
-/

namespace NewsSearch

open Calendar Text

/-- What is given for a field. -/
inductive FieldValue where
  | absent
  | single (value : Argument)
  | several (values : List Argument)
  | wrapped (mode : Mode) (values : List Argument)

/-- Decides what is given.  Nothing, blank texts and empty lists are absent. -/
def classify (a : Argument) : Except Fault FieldValue :=
  match a with
  | .data .null => .ok .absent
  | .wrapped mode values => .ok (.wrapped mode values)
  | .node _ => .error (.expression .nodeAsValue)
  | .data (.text s) => .ok (if isBlankText s then .absent else .single a)
  | _ =>
    match a.items? with
    | some [] => .ok .absent
    | some values => .ok (.several values)
    | none => .ok (.single a)

/-- The conditions for each of the values. -/
def Condition.makeEach [MomentReader] (f : Field) (modifiers : List (String × Argument)) :
    List Argument → Except Fault (List Node)
  | [] => .ok []
  | a :: rest => do
    let c ← Condition.make f a modifiers
    let others ← makeEach f modifiers rest
    .ok (.condition c :: others)

namespace Node

/-- The combination of the parts; a single part stands for itself. -/
def joined (mode : Mode) (children : List Node) : Node :=
  match mode with
  | .all => allOf children
  | .any => anyOf children

end Node

namespace Field

/-- Several values of the field in the given combination. -/
def coerceSeveral [MomentReader] (f : Field) (mode : Mode) (values : List Argument)
    (modifiers : List (String × Argument)) : Except Fault (Option Node) :=
  if !f.multi && 1 < values.length then .error (.expression (.severalValues f.key))
  else (Condition.makeEach f modifiers values).map fun children => some (Node.joined mode children)

/-- What is given for the field as a tree; `none` when nothing is given.  `mode?` replaces the
    default of the field for plain lists, and the modifiers go to every condition. -/
def coerce [MomentReader] (f : Field) (a : Argument) (mode? : Option Mode)
    (modifiers : List (String × Argument)) : Except Fault (Option Node) := do
  match ← classify a with
  | .absent => .ok none
  | .single value => (Condition.make f value modifiers).map fun c => some (.condition c)
  | .several values => f.coerceSeveral (mode?.getD f.defaultMode) values modifiers
  | .wrapped mode values => f.coerceSeveral mode values modifiers

end Field

end NewsSearch
