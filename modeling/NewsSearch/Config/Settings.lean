import NewsSearch.Client.Session
import NewsSearch.Config.QueryEntry
import NewsSearch.Text.Letter

/-!
The settings of the program.

A configuration has an object for the journal, one for the service, one for searching and one for
the output, and the list of searches.  `Settings.read` first reads every setting in a fixed order
and then checks the values, so the first setting of the wrong shape is reported before any unusable
value.
-/

namespace NewsSearch.Config

open Text

/-- The variables of the environment, with their values. -/
abbrev Environment := List (String × String)

/-- The settings of the journal. -/
structure JournalSettings where
  level : String
  toFile : Bool
  directory : String

/-- The settings of the connection to the service. -/
structure ServiceSettings where
  host : String
  /-- The variable of the environment that holds the key. -/
  keyVariable : String
  /-- The key; empty when the variable is not set. -/
  apiKey : String
  minDelay : Float
  retries : Int
  timeout : Float
  verbose : Bool

/-- The searches and the settings with which they are collected. -/
structure SearchSettings where
  searches : List NamedSearch
  maxItems : Int
  batchSize : Int
  sortBy : Option String
  ascending : Bool
  returnInfo : Record

/-- The settings of the output. -/
structure OutputSettings where
  directory : String
  formats : List String

/-- All settings. -/
structure Settings where
  journal : JournalSettings
  service : ServiceSettings
  search : SearchSettings
  output : OutputSettings

/-! ## Reading -/

/-- Reads the settings of the journal. -/
def readJournal (raw : Record) : Except Fault JournalSettings := do
  let entries ← objectAt raw "log" true
  let level ← text (← required entries "level" "log.level") "log.level"
  let toFile ← truthValue (← required entries "to_file" "log.to_file") "log.to_file"
  let directory ← text (← required entries "dir" "log.dir") "log.dir"
  .ok ⟨upper (strip level), toFile, directory⟩

/-- The key that a variable holds, without blanks around it. -/
def keyIn (environment : Environment) (variableName : String) : Except Fault String :=
  match nameFault? variableName with
  | some fault => .error (.encoding fault)
  | none =>
    .ok (if variableName.isEmpty then "" else strip ((environment.lookup variableName).getD ""))

/-- Reads the settings of the connection. -/
def readService (environment : Environment) (raw : Record) : Except Fault ServiceSettings := do
  let entries ← objectAt raw "api" true
  let keyVariable ← text (← required entries "api_key_env" "api.api_key_env") "api.api_key_env"
  let host ← text (← required entries "host" "api.host") "api.host"
  let minDelay ← number
    (← required entries "min_delay_between_requests" "api.min_delay_between_requests")
    "api.min_delay_between_requests"
  let retries ← integer
    (← required entries "repeat_failed_request_count" "api.repeat_failed_request_count")
    "api.repeat_failed_request_count"
  let timeout ← number (← required entries "timeout" "api.timeout") "api.timeout"
  let verbose ← truthValue ((entries.get? "verbose_output").getD (.bool false))
    "api.verbose_output"
  let apiKey ← keyIn environment (strip keyVariable)
  .ok {
    host := strip host
    keyVariable := strip keyVariable
    apiKey := apiKey
    minDelay := minDelay
    retries := retries
    timeout := timeout
    verbose := verbose }

/-- The searches of a list whose first entry has the given place. -/
def readEntries : Nat → List Data → Except Fault (List NamedSearch)
  | _, [] => .ok []
  | i, value :: rest => do
    let search ← readEntry (.data value) s!"queries[{Number.natText i}]"
    let others ← readEntries (i + 1) rest
    .ok (search :: others)

/-- Reads the searches and the settings with which they are collected. -/
def readSearch (raw : Record) : Except Fault SearchSettings := do
  let searches ← match raw.getD "queries" with
    | .null => .error (.setting (.missing "queries"))
    | .list values => readEntries 0 values
    | _ => .error (wrongShape "queries" .list)
  let entries ← objectAt raw "search" true
  let maxItems ← integer (← required entries "max_items" "search.max_items") "search.max_items"
  let batchSize ← integer (← required entries "batch_size" "search.batch_size")
    "search.batch_size"
  let sortBy ← optionalText (entries.getD "sort_by") "search.sort_by"
  let ascending ← truthValue ((entries.get? "sort_by_asc").getD (.bool false))
    "search.sort_by_asc"
  let returnInfo ← match entries.getD "return_info" with
    | .null => .ok []
    | value => object value "search.return_info"
  .ok ⟨searches, maxItems, batchSize, sortBy, ascending, returnInfo⟩

/-- Names without repetitions, each at its first place. -/
def distinct (names : List String) : List String :=
  names.foldl (fun seen name => if seen.contains name then seen else seen ++ [name]) []

/-- The names of formats, in lower case, without blanks and repetitions. -/
def formatNames (given : List String) : List String :=
  distinct ((given.map fun name => lower (strip name)).filter (!·.isEmpty))

/-- Reads the settings of the output. -/
def readOutput (raw : Record) : Except Fault OutputSettings := do
  let entries ← objectAt raw "output" true
  let formats ← texts (← required entries "formats" "output.formats") "output.formats"
  let directory ← text (← required entries "base_dir" "output.base_dir") "output.base_dir"
  .ok ⟨directory, formatNames formats⟩

/-! ## Checking -/

/-- Refuses settings when a condition holds. -/
def refuseWhen (condition : Bool) (fault : SettingFault) : Except Fault Unit :=
  if condition then .error (.setting fault) else .ok ()

/-- Checks the settings of the journal. -/
def JournalSettings.check (s : JournalSettings) : Except Fault Unit := do
  refuseWhen (Level.ofName? s.level).isNone (.logLevel (Level.every.map (·.name)))
  if s.toFile then notBlank s.directory "log.dir"

/-- Checks the settings of the connection. -/
def ServiceSettings.check (s : ServiceSettings) : Except Fault Unit := do
  notBlank s.host "api.host"
  notBlank s.keyVariable "api.api_key_env"
  refuseWhen (!(s.host.startsWith "http://" || s.host.startsWith "https://")) .hostScheme
  refuseWhen (decide (s.minDelay < 0)) (.negative "api.min_delay_between_requests")
  refuseWhen (decide (s.retries < 0)) (.negative "api.repeat_failed_request_count")
  refuseWhen (decide (s.timeout ≤ 0)) (.notPositive "api.timeout")

/-- The names that several searches have, in alphabetical order. -/
def repeatedNames (searches : List NamedSearch) : List String :=
  let names := searches.filterMap (·.name)
  sorted (distinct (names.filter fun name => 1 < names.count name))

/-- Checks the searches and the settings with which they are collected. -/
def SearchSettings.check (s : SearchSettings) : Except Fault Unit := do
  refuseWhen s.searches.isEmpty .noQueries
  refuseWhen (decide (s.maxItems = 0 ∨ s.maxItems < -1)) .itemLimit
  refuseWhen (decide (s.batchSize ≤ 0)) (.notPositive "search.batch_size")
  refuseWhen (!(repeatedNames s.searches).isEmpty) (.repeatedNames (repeatedNames s.searches))

/-- The formats that output may have. -/
def knownFormats : List String := ["console", "json"]

/-- Checks the settings of the output. -/
def OutputSettings.check (s : OutputSettings) : Except Fault Unit := do
  notBlank s.directory "output.base_dir"
  refuseWhen s.formats.isEmpty .noFormats
  let unknown := sorted (s.formats.filter (!knownFormats.contains ·))
  refuseWhen (!unknown.isEmpty) (.unknownFormats unknown)

/-- Reads and checks all settings. -/
def Settings.read (environment : Environment) (raw : Record) : Except Fault Settings := do
  let journal ← readJournal raw
  let service ← readService environment raw
  let search ← readSearch raw
  let output ← readOutput raw
  journal.check
  service.check
  search.check
  output.check
  .ok ⟨journal, service, search, output⟩

end NewsSearch.Config
