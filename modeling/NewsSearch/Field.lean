/-!
The vocabulary of filterable fields.

Every field has the name under which the service knows it, the parameter name under which searches
give it, the kind of its values, whether several values may be given, and how a plain list of values
is combined.  Two fields have a modifier that is written next to their conditions.

How lists combine is data of each field and follows no general rule: keywords and concepts must all
match, any one value is enough for every other field.
-/

namespace NewsSearch

/-- The kind of a field's values. -/
inductive ValueKind where
  | uri
  | token
  | date
  | count
  deriving DecidableEq, Repr

/-- How several values or conditions are combined. -/
inductive Mode where
  /-- All of them must match. -/
  | all
  /-- One of them must match. -/
  | any
  deriving DecidableEq, Repr

/-- A filterable field. -/
structure Field where
  key : String
  param : String
  kind : ValueKind
  multi : Bool
  defaultMode : Mode
  modifier : Option String
  eventsOnly : Bool
  deriving DecidableEq, Repr

/-- The modifier of keywords: the parts of an article that are searched. -/
def keywordLocation : String := "keywordLoc"

/-- The modifier of categories: whether their subcategories count too. -/
def includeSubcategories : String := "categoryIncludeSub"

/-- The parts of an article in which keywords may be searched, in alphabetical order. -/
def keywordLocations : List String := ["body", "body,title", "title"]

namespace Field

/-- A field of several values, any one of which is enough unless said otherwise. -/
def several (key param : String) (kind : ValueKind) (mode : Mode := .any)
    (modifier : Option String := none) : Field :=
  ⟨key, param, kind, true, mode, modifier, false⟩

/-- A field of a single value. -/
def single (key param : String) (kind : ValueKind) (eventsOnly : Bool := false) : Field :=
  ⟨key, param, kind, false, .any, none, eventsOnly⟩

/-- The vocabulary in its fixed order. -/
def vocabulary : List Field := [
  several "keyword" "keywords" .token .all (some keywordLocation),
  several "conceptUri" "concept_uri" .uri .all,
  several "categoryUri" "category_uri" .uri .any (some includeSubcategories),
  several "sourceUri" "source_uri" .uri,
  several "sourceLocationUri" "source_location_uri" .uri,
  several "sourceGroupUri" "source_group_uri" .uri,
  several "locationUri" "location_uri" .uri,
  several "lang" "lang" .token,
  single "dateStart" "date_start" .date,
  single "dateEnd" "date_end" .date,
  single "dateMentionStart" "date_mention_start" .date,
  single "dateMentionEnd" "date_mention_end" .date,
  single "minArticlesInEvent" "min_articles_in_event" .count true,
  single "maxArticlesInEvent" "max_articles_in_event" .count true]

/-- The field that the service knows under this name. -/
def ofKey? (key : String) : Option Field := vocabulary.find? (·.key == key)

/-- The field that searches give under this parameter name. -/
def ofParam? (param : String) : Option Field := vocabulary.find? (·.param == param)

/-- The modifiers of the vocabulary. -/
def modifierNames : List String := vocabulary.filterMap (·.modifier)

/-- Each field is found under its own key. -/
theorem ofKey?_key : ∀ f ∈ vocabulary, ofKey? f.key = some f := by decide

/-- A field found by its key belongs to the vocabulary and has that key. -/
theorem mem_vocabulary_of_ofKey? {key : String} {f : Field} (h : ofKey? key = some f) :
    f ∈ vocabulary ∧ f.key = key := by
  refine ⟨List.mem_of_find?_eq_some h, ?_⟩
  simpa using List.find?_some h

example : modifierNames = ["keywordLoc", "categoryIncludeSub"] := by decide

end Field

end NewsSearch
