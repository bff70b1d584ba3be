import NewsSearch.Config.Read
import NewsSearch.Search.Outcome
import NewsSearch.Text.Letter

/-!
Configured searches.

An entry of the list of searches is an object.  It may have a name and says whether articles or
events are searched.  The search itself is given field by field, under the parameter names of flat
searches, or as a document.  A field has a value, a list of values, or an object that says how its
values combine.

A fault in a field names the field; a fault in building the search names the entry.
-/

namespace NewsSearch.Config

open Text

/-- The key of an entry's name. -/
def nameKey : String := "NAME"

/-- The key that says what an entry searches for. -/
def subjectKey : String := "TYPE"

/-- The key of an entry's document. -/
def documentKey : String := "COMPLEX"

/-- The keys of an entry that are not fields. -/
def reservedKeys : List String := [nameKey, subjectKey, documentKey]

/-- What entries may search for, in alphabetical order. -/
def subjects : List (String × Subject) := [("articles", .articles), ("events", .events)]

/-- The keys under which values are combined. -/
def combinations : List (String × Mode) := [("AND", .all), ("OR", .any)]

/-! ## Fields -/

/-- A single value: nothing, a text, a number, a truth value, a day or a moment. -/
def single (value : Argument) (key : String) : Except Fault Argument :=
  match value with
  | .data (.scalar (.tuple _)) | .data (.scalar (.other ..)) => .error (wrongShape key .scalar)
  | .data (.scalar s) => .ok (.data (.scalar s))
  | _ => .error (wrongShape key .scalar)

/-- The single values of a list whose first element has the given place. -/
def singlesFrom (key : String) : Nat → List Argument → Except Fault (List Argument)
  | _, [] => .ok []
  | i, value :: rest => do
    let a ← single value s!"{key}[{Number.natText i}]"
    let others ← singlesFrom key (i + 1) rest
    .ok (a :: others)

/-- The elements of a list; a tuple is none. -/
def listItems? : Argument → Option (List Argument)
  | .data (.list ds) => some (ds.map .data)
  | .list as => some as
  | _ => none

/-- The values that an object under a field combines. -/
def combined (entries : List (Scalar × Argument)) (key : String) : Except Fault Argument :=
  match entries with
  | [(.text word, items)] =>
    match combinations.lookup word with
    | none => .error (.setting (.fieldObject key))
    | some mode =>
      match listItems? items with
      | none | some [] => .error (.setting (.emptyGroup s!"{key}.{word}"))
      | some values => do
        Argument.wrap mode (.list (← singlesFrom s!"{key}.{word}" 0 values))
  | _ => .error (.setting (.fieldObject key))

/-- What is given for a field. -/
def fieldArgument (value : Argument) (key : String) : Except Fault Argument :=
  match value.entries? with
  | some entries => combined entries key
  | none =>
    match listItems? value with
    | some values => (singlesFrom key 0 values).map .list
    | none => single value key

/-- The fields among the entries of an object, in order. -/
def fieldParams (key : String) : List (Scalar × Argument) → Except Fault Params
  | [] => .ok []
  | (.text name, value) :: rest =>
    if reservedKeys.contains name then fieldParams key rest
    else do
      let a ← fieldArgument value s!"{key}.{name}"
      let others ← fieldParams key rest
      .ok ((name, a) :: others)
  | _ :: _ => .error (.setting (.fieldNames key))

/-! ## Entries -/

/-- The argument under a key of an entry. -/
def argumentAt? (name : String) (entries : List (Scalar × Argument)) : Option Argument :=
  (entries.find? fun (key, _) => key.same (.text name)).map (·.2)

/-- A text of an entry. -/
def entryText (value : Argument) (key : String) : Except Fault String :=
  match value with
  | .data d => text d key
  | _ => .error (wrongShape key .text)

/-- The name of an entry; a blank one counts as missing. -/
def entryName (entries : List (Scalar × Argument)) (key : String) :
    Except Fault (Option String) :=
  match argumentAt? nameKey entries with
  | none => .ok none
  | some value => do
    let stripped := strip (← entryText value s!"{key}.{nameKey}")
    .ok (if stripped.isEmpty then none else some stripped)

/-- What an entry searches for: articles, unless it says otherwise. -/
def entrySubject (entries : List (Scalar × Argument)) (key : String) : Except Fault Subject := do
  let value := (argumentAt? subjectKey entries).getD (.data (.text "articles"))
  let word := lower (strip (← entryText value s!"{key}.{subjectKey}"))
  match subjects.lookup word with
  | some subject => .ok subject
  | none => .error (.setting (.queryType key (subjects.map (·.1))))

/-- Whether a value may be a document: a text or an object. -/
def isDocument : Argument → Bool
  | .data (.text _) => true
  | a => a.entries?.isSome

/-- The search for the fields or the document of an entry. -/
def buildSearch (subject : Subject) (document : Argument) (params : Params) (key : String) :
    Except Fault Search :=
  if document.isNull then
    if params.isEmpty then .error (.setting (.emptyQuery key))
    else Search.ofAllParams subject params
  else if isDocument document then Search.ofExplicit subject (.query document)
  else .error (wrongShape s!"{key}.{documentKey}" .document)

/-- A fault in building the search of an entry becomes a fault of the entry, unless it names the
    entry already. -/
def atEntry (key : String) (fault : Fault) : Fault :=
  if fault.isQueryFault then .setting (.query key fault.message)
  else
    match fault.kind with
    | .type =>
      if fault.message.startsWith key then fault else .setting (.query key fault.message)
    | _ => fault

/-- The search that an entry describes; `key` is the path of the entry. -/
def readEntry (value : Argument) (key : String) : Except Fault NamedSearch :=
  match value.entries? with
  | none => .error (wrongShape key .object)
  | some entries => do
    let name ← entryName entries key
    let subject ← entrySubject entries key
    let params ← fieldParams key entries
    let document := (argumentAt? documentKey entries).getD (.data .null)
    if !document.isNull && !params.isEmpty then
      .error (.setting (.mixedQuery key (Text.sorted (params.map (·.1)))))
    else
      let search ← (buildSearch subject document params key).mapError (atEntry key)
      .ok ⟨name, search⟩

end NewsSearch.Config
