import NewsSearch.Query.FieldValue

/-!
Searches described field by field.

A flat search gives each field under its parameter name, and values to leave out under the same name
with `ignore_` in front.  Two parameters on each side set the modifiers of that side.  The search
means: every populated field matches and no ignored one does.

The tree has the populated fields in the order of the vocabulary, and last the negation of the
ignored ones, any of which is enough to leave something out.
-/

namespace NewsSearch

/-- Parameters in order, each name once. -/
abbrev Params := List (String × Argument)

namespace Params

/-- The argument under a name, or nothing. -/
def getD (name : String) (params : Params) : Argument := (params.lookup name).getD (.data .null)

end Params

namespace Flat

/-- The parameter under which values of the field are left out. -/
def ignoredParam (f : Field) : String := "ignore_" ++ f.param

/-- The parameters that set modifiers of populated fields, each with its modifier. -/
def modifierParams : List (String × String) :=
  [("keywords_loc", keywordLocation), ("category_include_sub", includeSubcategories)]

/-- The parameters that set modifiers of ignored fields, each with its modifier. -/
def ignoredModifierParams : List (String × String) :=
  [("ignore_keywords_loc", keywordLocation), ("ignore_category_include_sub", includeSubcategories)]

/-- What a flat search may use. -/
structure Scope where
  /-- Values may be left out. -/
  ignoring : Bool
  /-- Fields that only events have may be given. -/
  eventFields : Bool
  deriving DecidableEq, Repr

/-- The names of the parameters that the scope allows. -/
def allowedNames (scope : Scope) : List String :=
  modifierParams.map (·.1) ++
    (if scope.ignoring then ignoredModifierParams.map (·.1) else []) ++
    (Field.vocabulary.filter fun f => scope.eventFields || !f.eventsOnly).flatMap fun f =>
      f.param :: (if f.multi && scope.ignoring then [ignoredParam f] else [])

/-- Refuses parameters that the scope does not allow; they are named in alphabetical order. -/
def checkNames (scope : Scope) (params : Params) : Except Fault Unit :=
  let unknown := (params.map (·.1)).filter fun name => !(allowedNames scope).contains name
  if unknown.isEmpty then .ok ()
  else .error (.type (.unexpectedParams (Text.sorted unknown)))

/-- The modifier given for the field on one side, `names` being the parameters of that side. -/
def modifierFor (names : List (String × String)) (params : Params) (f : Field) :
    List (String × Argument) :=
  match names.find? fun (_, modifier) => f.modifier = some modifier with
  | some (name, modifier) =>
    let a := params.getD name
    if a.isNull then [] else [(modifier, a)]
  | none => []

/-- The populated part of one field. -/
def populated (params : Params) (f : Field) : Except Fault (Option Node) :=
  f.coerce (params.getD f.param) none (modifierFor modifierParams params f)

/-- The ignored part of one field; any of several values is enough. -/
def ignored (params : Params) (f : Field) : Except Fault (Option Node) :=
  if f.multi then
    f.coerce (params.getD (ignoredParam f)) (some .any)
      (modifierFor ignoredModifierParams params f)
  else .ok none

/-- The populated and the ignored parts of the fields, in order. -/
def parts (params : Params) : List Field → Except Fault (List Node × List Node)
  | [] => .ok ([], [])
  | f :: rest => do
    let positive ← populated params f
    let negative ← ignored params f
    let (positives, negatives) ← parts params rest
    .ok (positive.toList ++ positives, negative.toList ++ negatives)

/-- The negation of the ignored parts, if there are any. -/
def exclusion (negatives : List Node) : List Node :=
  if negatives.isEmpty then [] else [.not (Node.anyOf negatives)]

/-- The tree of all parts; `none` when there are none. -/
def assemble (positives negatives : List Node) : Option Node :=
  match positives ++ exclusion negatives with
  | [] => none
  | branches => some (.all branches)

/-- The tree of a flat search; `none` when no field is populated or ignored. -/
def compile (scope : Scope) (params : Params) : Except Fault (Option Node) := do
  checkNames scope params
  let (positives, negatives) ← parts params Field.vocabulary
  .ok (assemble positives negatives)

/-- The parameter under which a tree to leave out may be given. -/
def excludeParam : String := "exclude"

/-- A tree of populated fields without the matches of `exclude`, or of what is given under its name,
    but not both; some field must be populated. -/
def base (params : Params) (exclude : Argument) : Except Fault Node := do
  if !exclude.isNull && params.any fun (name, _) => name = excludeParam then
    .error (.type (.repeatedName "base_query" excludeParam))
  match ← compile ⟨false, true⟩ (params.filter fun (name, _) => name ≠ excludeParam) with
  | some root => root.without (if exclude.isNull then params.getD excludeParam else exclude)
  | none => .error (.expression .emptyBase)

end Flat

end NewsSearch
