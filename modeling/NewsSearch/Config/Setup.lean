import NewsSearch.Client.Options
import NewsSearch.Config.Settings
import NewsSearch.Report.Format

/-!
What is set up from the settings: the client, the options with which searches are collected, and the
formats of the output.
-/

namespace NewsSearch.Config

/-- The client of the service; there is none without a key. -/
def ServiceSettings.client (s : ServiceSettings) : Except Fault (Client Float) :=
  if s.apiKey.isEmpty then .error (.value (.noApiKey s.keyVariable))
  else Client.make (.text s.apiKey) s.host s.minDelay s.retries (.float s.timeout) s.verbose

/-- The options with which the searches are collected. -/
def SearchSettings.collectOptions (s : SearchSettings) : CollectOptions where
  maxItems := .int s.maxItems
  batchSize := .int s.batchSize
  sortBy := match s.sortBy with
    | some key => .text key
    | none => .null
  ascending := .bool s.ascending
  returnInfo := .map s.returnInfo

/-- The formats of the output. -/
def OutputSettings.chosenFormats (s : OutputSettings) : Except Fault (List Report.Format) :=
  Report.Format.chosen s.formats

end NewsSearch.Config
