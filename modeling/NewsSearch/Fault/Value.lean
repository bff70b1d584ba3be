import NewsSearch.Field
import NewsSearch.Json.Reader
import NewsSearch.Text.Quoted

/-!
What can be wrong with a value, an expression, a filter or a document.

Each family of faults is a type of its causes, and the wording of a cause is given by one function.
A fault inside a document carries the path at which it was found, and repeats the wording of the
value or expression that is at fault there.
-/

namespace NewsSearch

open Text Number

/-- Why a value does not name a day. -/
inductive DateFault where
  /-- The value is neither a date nor a text; its type is given. -/
  | notDate (typeName : String)
  | blank
  /-- The text does not begin with a complete date. -/
  | notCalendarDate (text : String)
  /-- The text begins with a complete date, but it or what follows cannot be read. -/
  | unreadable (text : String)
  deriving DecidableEq, Repr

/-- The wording of a date fault. -/
def DateFault.message : DateFault → String
  | notDate typeName => s!"Expected a date or date string, got {typeName}"
  | blank => "Date string is empty"
  | notCalendarDate t => s!"Invalid date: {quoted t} is not a full calendar date"
  | unreadable t => s!"Invalid date: {quoted t}"

/-- Why a result filter is not accepted. -/
inductive FilterFault where
  | notAnObject
  /-- There is no filter of this name. -/
  | unknown (name : String)
  /-- The filter does not take the setting; the settings it takes are given. -/
  | setting (name : String) (allowed : List String)
  deriving DecidableEq, Repr

/-- The wording of a filter fault. -/
def FilterFault.message : FilterFault → String
  | notAnObject => "$filter must be an object"
  | unknown name => s!"Unknown filter: {name}"
  | setting name allowed => s!"$filter.{name} must be one of {quotedList allowed}"

/-- The name of a combination in messages. -/
def Mode.word : Mode → String
  | .all => "AND"
  | .any => "OR"

/-- Why an expression cannot be built. -/
inductive ExpressionFault where
  /-- A count is not an integer; the value is given as messages show it. -/
  | notInteger (field shown : String)
  | negative (field : String)
  /-- A value is no text; its type is given. -/
  | notText (field typeName : String)
  | blankValue (field : String)
  /-- The modifier does not belong to the field. -/
  | strayModifier (name field : String)
  /-- The keyword location is none of the known ones. -/
  | location
  /-- The modifier is not a truth value. -/
  | notTruthValue (name : String)
  | unknownField (key : String)
  /-- A negation of something that is no query node. -/
  | negatedValue (typeName : String)
  /-- A combination of nothing. -/
  | noChildren (mode : Mode)
  /-- The children of a combination are not given as a tuple. -/
  | childrenNotTuple (mode : Mode)
  /-- The child at this place is no query node. -/
  | child (mode : Mode) (index : Nat) (typeName : String)
  /-- A wrapper around no values. -/
  | noItems
  /-- A query node stands where a field value is expected. -/
  | nodeAsValue
  /-- Several values for a field that takes one. -/
  | severalValues (field : String)
  /-- No field of a base query is populated. -/
  | emptyBase
  | filter (fault : FilterFault)
  deriving DecidableEq, Repr

/-- The wording of an expression fault. -/
def ExpressionFault.message : ExpressionFault → String
  | notInteger field shown => s!"{field} must be an integer, got {shown}"
  | negative field => s!"{field} must not be negative"
  | notText field typeName => s!"{field} values must be strings, got {typeName}"
  | blankValue field => s!"{field} value must not be empty"
  | strayModifier name field => s!"{name} cannot be applied to {field}"
  | location => s!"keywordLoc must be one of {quotedList keywordLocations}"
  | notTruthValue name => s!"{name} must be a boolean"
  | unknownField key => s!"Unknown query field: {key}"
  | negatedValue typeName => s!"NOT requires a query node, got {typeName}"
  | noChildren mode => s!"{mode.word} requires at least one child"
  | childrenNotTuple mode => s!"{mode.word} children must be a tuple of query nodes"
  | child mode index typeName =>
    s!"{mode.word} child {natText index} must be a query node, got {typeName}"
  | noItems => "QueryItems requires at least one value"
  | nodeAsValue => "Query nodes cannot be used as field values; combine them with and_/or_"
  | severalValues field => s!"{field} accepts a single value"
  | emptyBase => "base_query requires at least one field"
  | filter fault => fault.message

/-- Why a query document is not accepted. -/
inductive DocumentFault where
  | notJson (fault : Json.ReadFault)
  | notAnObject
  | unknownRootKey (key : String)
  | missingQuery
  | filter (fault : FilterFault)
  /-- The builder of this name takes no filters. -/
  | filtersNotSupported (builder : String)
  | expectedObject (path : String)
  | emptyObject (path : String)
  | unknownOperator (path : String)
  | unknownField (path : String)
  /-- Modifiers without their field, in alphabetical order. -/
  | looseModifiers (path : String) (names : List String)
  | emptyGroup (path : String)
  /-- The object under a field is not a single combination of values. -/
  | fieldObject (path : String)
  | expectedList (path : String)
  | emptyList (path : String)
  | severalValues (path : String)
  | nestedValue (path : String)
  | expression (path : String) (fault : ExpressionFault)
  | date (path : String) (fault : DateFault)
  deriving DecidableEq, Repr

/-- The wording of a document fault. -/
def DocumentFault.message : DocumentFault → String
  | notJson fault => s!"Query text is not valid JSON: {fault.message}"
  | notAnObject => "Query document must be an object"
  | unknownRootKey key => s!"Unknown key at document root: {key}"
  | missingQuery => "Query document is missing $query"
  | filter fault => fault.message
  | filtersNotSupported builder => s!"{builder} does not support $filter"
  | expectedObject path => s!"{path} must be an object"
  | emptyObject path => s!"{path} must not be empty"
  | unknownOperator path => s!"Unknown operator: {path}"
  | unknownField path => s!"Unknown query field: {path}"
  | looseModifiers path names =>
    s!"{path} has modifiers without their field: {quotedList names}"
  | emptyGroup path => s!"{path} must be a non-empty list"
  | fieldObject path => s!"{path} must be a value, a list, or a single $and/$or"
  | expectedList path => s!"{path} must be a list"
  | emptyList path => s!"{path} must not be an empty list"
  | severalValues path => s!"{path} accepts a single value"
  | nestedValue path => s!"{path} values must be scalars"
  | expression path fault => s!"{path}: {fault.message}"
  | date path fault => s!"{path}: {fault.message}"

end NewsSearch
