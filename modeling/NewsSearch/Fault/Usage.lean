import NewsSearch.Calendar.Date
import NewsSearch.Fault.Value
import NewsSearch.Json.Writer

/-!
What can be wrong with the use of searches, sections and readers.

`TypeFault` holds the causes that lie in the type of something that was given, `ValueFault` those
that lie in its value.
-/

namespace NewsSearch

open Text Number Calendar

/-- Why the type of something given does not fit. -/
inductive TypeFault where
  /-- A value of this type cannot be looked up. -/
  | unhashable (typeName : String)
  /-- A value of this type has no elements to run over. -/
  | notIterable (typeName : String)
  | unexpectedParams (names : List String)
  /-- The builder takes no filters. -/
  | unexpectedFilters (builder : String) (names : List String)
  /-- The parameter name is already taken by the call itself. -/
  | takenName (call name : String)
  /-- The parameter of the search or function is given twice. -/
  | repeatedName (call name : String)
  /-- The call has no parameter of this name. -/
  | unknownName (call name : String)
  | notSection (typeName : String)
  /-- The builder takes explicit searches of another kind. -/
  | wrongExplicit (builder expected : String)
  /-- The iterator runs over searches of another kind. -/
  | wrongSearch (iterator expected typeName : String)
  /-- The two operands cannot be combined. -/
  | operands (operator left right : String)
  /-- The operand cannot be negated. -/
  | operand (typeName : String)
  /-- Values of these types have no order. -/
  | notComparable (left right : String)
  /-- A value of this type cannot count attempts. -/
  | notInteger (typeName : String)
  /-- A value of this type has no elements among which another could be. -/
  | notContainer (typeName : String)
  /-- The elements of a value of this type are not found by name. -/
  | namedElement (typeName : String)
  /-- Bytes do not begin with a text. -/
  | bytesPrefix
  /-- The element at this place has no parts that could be an entry of a mapping. -/
  | notEntry (index : Nat)
  /-- The call has no place for so many or so few arguments. -/
  | argumentCount (message : String)
  | json (fault : Json.WriteFault)
  deriving DecidableEq, Repr

/-- The wording of a type fault. -/
def TypeFault.message : TypeFault → String
  | unhashable typeName => s!"unhashable type: '{typeName}'"
  | notIterable typeName => s!"'{typeName}' object is not iterable"
  | unexpectedParams names => s!"Unexpected query parameters: {quotedList names}"
  | unexpectedFilters builder names =>
    s!"{builder} got unexpected parameters: {quotedList names}"
  | takenName call name => s!"{call}() got multiple values for argument '{name}'"
  | repeatedName call name =>
    s!"NewsTracker.core.query.{call}() got multiple values for keyword argument '{name}'"
  | unknownName call name => s!"{call}() got an unexpected keyword argument '{name}'"
  | notSection typeName => s!"Expected a RequestedResult, got {typeName}"
  | wrongExplicit builder expected => s!"{builder} expects {expected}"
  | wrongSearch iterator expected typeName => s!"{iterator} expects {expected}, got {typeName}"
  | operands operator left right =>
    s!"unsupported operand type(s) for {operator}: '{left}' and '{right}'"
  | operand typeName => s!"bad operand type for unary ~: '{typeName}'"
  | notComparable left right => s!"'<' not supported between instances of '{left}' and '{right}'"
  | notInteger typeName => s!"'{typeName}' object cannot be interpreted as an integer"
  | notContainer typeName => s!"argument of type '{typeName}' is not iterable"
  | namedElement typeName =>
    if typeName = "str" then "string indices must be integers, not 'str'"
    else s!"{typeName} indices must be integers or slices, not str"
  | bytesPrefix => "startswith first arg must be bytes or a tuple of bytes, not str"
  | notEntry index =>
    s!"cannot convert dictionary update sequence element #{natText index} to a sequence"
  | argumentCount message => message
  | json fault => fault.message

/-- Why the value of something given does not fit. -/
inductive ValueFault where
  /-- The page of a section of this type is not a positive integer. -/
  | page (sectionType : String)
  | countType (sectionType : String)
  /-- The count of a section of this type is not between 1 and the given limit. -/
  | countRange (sectionType : String) (limit : Nat)
  /-- The section does not belong to what the builder searches. -/
  | foreignSection (sectionName builder : String)
  | repeatedSection (sectionType : String)
  | noSections
  | blankUri
  | itemLimit
  | batchSize
  | minDelay
  | retryCount
  /-- A text denotes no integer. -/
  | integer (fault : IntegerFault)
  /-- A text denotes no decimal number. -/
  | decimal (text : String)
  | calendar (fault : CalendarFault)
  /-- An element cannot serve as an entry of a mapping. -/
  | entry (index length : Nat)
  | noWriters
  /-- The variable that should hold the key of the service is not set. -/
  | noApiKey (name : String)
  deriving DecidableEq, Repr

/-- The wording of a value fault. -/
def ValueFault.message : ValueFault → String
  | page sectionType => s!"{sectionType} page must be a positive integer"
  | countType sectionType => s!"{sectionType} count must be an integer"
  | countRange sectionType limit => s!"{sectionType} count must be between 1 and {natText limit}"
  | foreignSection sectionName builder => s!"{sectionName} cannot be requested from {builder}"
  | repeatedSection sectionType => s!"Result section already requested: {sectionType}"
  | noSections => "At least one result section must be requested"
  | blankUri => "event_uri must be a non-empty string"
  | itemLimit => "max_items must be -1 (unlimited) or a non-negative integer"
  | batchSize => "batch_size must be a positive integer"
  | minDelay => "min_delay must be >= 0"
  | retryCount => "repeat_failed_request_count must be >= 0"
  | integer fault => fault.message
  | decimal t => s!"could not convert string to float: {quoted t}"
  | calendar fault => fault.message
  | entry index length =>
    s!"dictionary update sequence element #{natText index} has length {natText length}; " ++
      "2 is required"
  | noWriters => "No output writers configured"
  | noApiKey name =>
    s!"{name} environment variable not set. " ++
      "Set it in your .env file or shell environment."

end NewsSearch
