import NewsSearch.Text.Quoted

/-!
What can be wrong with a configuration.

Every fault names the setting by its path from the root, such as `api.timeout` or `queries[0].lang`.
A setting of the wrong shape and a setting with an unusable value are told apart by
`SettingFault.isShape`.
-/

namespace NewsSearch

open Text

/-- The shape that a setting must have. -/
inductive Shape where
  | text
  | truthValue
  | integer
  | number
  | list
  | object
  /-- A text, a number, a truth value or a date. -/
  | scalar
  /-- A query document as text or as an object. -/
  | document
  deriving DecidableEq, Repr

/-- The name of a shape in messages. -/
def Shape.word : Shape → String
  | text => "a string"
  | truthValue => "a boolean"
  | integer => "an integer"
  | number => "a number"
  | list => "a list"
  | object => "an object"
  | scalar => "a string, number, boolean or date"
  | document => "JSON text or an object"

/-- Why a configuration is not accepted. -/
inductive SettingFault where
  /-- The setting does not have the shape it must have. -/
  | shape (key : String) (expected : Shape)
  /-- An object has keys that are no texts. -/
  | keys (key : String)
  /-- A query has field names that are no texts. -/
  | fieldNames (key : String)
  | missing (key : String)
  | blank (key : String)
  | notMapping
  | logLevel (levels : List String)
  | hostScheme
  | negative (key : String)
  | notPositive (key : String)
  | noQueries
  | itemLimit
  | repeatedNames (names : List String)
  | noFormats
  | unknownFormats (names : List String)
  /-- The query is of a type that is none of the known ones. -/
  | queryType (key : String) (types : List String)
  /-- A query gives both a document and single fields. -/
  | mixedQuery (key : String) (names : List String)
  | emptyQuery (key : String)
  /-- The object under a field is not a single combination of values. -/
  | fieldObject (key : String)
  | emptyGroup (key : String)
  /-- The query cannot be built; the reason is given in words. -/
  | query (key reason : String)
  deriving DecidableEq, Repr

namespace SettingFault

/-- The wording of a configuration fault. -/
def message : SettingFault → String
  | shape key expected => s!"{key} must be {expected.word}"
  | keys key => s!"{key} keys must be strings"
  | fieldNames key => s!"{key} field names must be strings"
  | missing key => s!"Missing required config: {key}"
  | blank key => s!"{key} must not be empty"
  | notMapping => "Config root must be a mapping/object"
  | logLevel levels => s!"log.level must be one of {quotedList levels}"
  | hostScheme => "api.host must start with http:// or https://"
  | negative key => s!"{key} must be >= 0"
  | notPositive key => s!"{key} must be positive"
  | noQueries => "queries must include at least one query"
  | itemLimit => "search.max_items must be -1 or positive"
  | repeatedNames names => s!"queries has duplicate NAME values: {quotedList names}"
  | noFormats => "output.formats must include at least one format"
  | unknownFormats names => s!"output.formats has unknown formats: {quotedList names}"
  | queryType key types => s!"{key}.TYPE must be one of {quotedList types}"
  | mixedQuery key names =>
    s!"{key}.COMPLEX cannot be combined with flat fields: {quotedList names}"
  | emptyQuery key => s!"{key} must include at least one field or COMPLEX"
  | fieldObject key => s!"{key} must be a value, a list, or a single AND/OR list"
  | emptyGroup key => s!"{key} must be a non-empty list"
  | query key reason => s!"{key}: {reason}"

/-- Whether the fault lies in the shape of a setting, not in its value. -/
def isShape : SettingFault → Bool
  | shape .. | keys _ | fieldNames _ => true
  | _ => false

end SettingFault

end NewsSearch
