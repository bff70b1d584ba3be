import NewsSearch.Config.Setup
import NewsSearch.Proofs.Query.SentSearch
import NewsSearch.Proofs.Search.Collecting

/-!
Accepted settings are enough.

Settings are read and checked once, before anything is done with them.  The client, the formats, the
pagers and the requests check again what they are given, each for itself.  This file goes through
the second checks and finds each of them among the first.

1. Every search of the settings is read from an entry of the list, from its fields or from its
   document (`search_of_readEntry`).  Both ways make searches that can be sent, as is known of them
   (`sendable_of_readEntry`).
2. The numbers and the formats are in range, because the settings were checked when they were read.
   What is known of them, as far as anybody checks it again, is put together as `Settings.Accepted`
   (`accepted_of_read`); nothing after this needs the checks themselves.
3. Each of the second checks passes on account of one or two of these facts: the client
   (`Settings.Accepted.client`), the formats (`Settings.Accepted.chosenFormats`), and the pager of
   every search (`Settings.Accepted.pager`).
4. A pager that wants something asks for a first page, whoever answers.  That is the first thing
   that happens in a search, so that it does not matter what comes back.

One thing is left that no check of the settings asks for.  The text of a query has decimal numerals,
and an integer of more digits than can be written keeps the first request from being built; integers
in settings can be given in other ways, and be as long as one likes.

Main statement: `Settings.ready_of_read`.
-/

namespace NewsSearch.Config

/-! ## Entries

Settings are read from plain data, whereas searches can be made from arguments of every kind.  So
the functions below are applied to data that was made an argument, and reading is undone step by
step. -/

/-- What stands under a key of an entry of plain data is plain data. -/
theorem argumentAt?_data (name : String) (entries : Record) :
    argumentAt? name (entries.map fun (k, v) => (k, .data v)) = (entries.get? name).map .data := by
  unfold argumentAt? Record.get?
  induction entries with
  | nil => rfl
  | cons entry rest ih =>
    rw [List.map_cons, List.find?_cons, Record.find?]
    by_cases hk : entry.1.same (.text name) = true
    · simp only [hk, if_true, Option.map_some]
    · simp only [hk, Bool.false_eq_true, if_false, ih]

/-- So it is when nothing stands there, which counts as null. -/
theorem argumentAt?_getD_data (name : String) (entries : Record) :
    (argumentAt? name (entries.map fun (k, v) => (k, .data v))).getD (.data .null) =
      .data (entries.getD name) := by
  rw [argumentAt?_data, Record.getD]
  cases entries.get? name <;> rfl

/-- A single value is taken as it is. -/
theorem single_eq {key : String} {value a : Argument} (h : single value key = .ok a) :
    a = value := by
  unfold single at h
  split at h
  · cases h
  · cases h
  · cases h
    rfl
  · cases h

/-- So are the values of a list. -/
theorem singlesFrom_eq {key : String} {i : Nat} {values as : List Argument}
    (h : singlesFrom key i values = .ok as) : as = values := by
  induction values generalizing i as with
  | nil =>
    cases h
    rfl
  | cons value rest ih =>
    simp only [singlesFrom, bind_eq_ok_iff] at h
    obtain ⟨a, ha, others, hothers, has⟩ := h
    cases has
    rw [single_eq ha, ih hothers]

/-- **What an accepted entry is.**  It is an object with a name or without one.  Its search is made
    from its fields, of which there are some, or from its document.  Reading fails in all other
    cases, so that they are gone through one by one here and nowhere else. -/
theorem search_of_readEntry {d : Data} {key : String} {n : NamedSearch}
    (h : readEntry (.data d) key = .ok n) :
    ∃ entries : Record, d = .map entries ∧
      entryName (entries.map fun (k, v) => (k, .data v)) key = .ok n.name ∧ ∃ subject params,
        fieldParams key (entries.map fun (k, v) => (k, .data v)) = .ok params ∧
          ((params ≠ [] ∧ Search.ofAllParams subject params = .ok n.search) ∨
            (entries.getD documentKey ≠ .null ∧
              Search.ofExplicit subject (.query (.data (entries.getD documentKey))) =
                .ok n.search)) := by
  cases d with
  | map entries =>
    have hsource := argumentAt?_getD_data documentKey entries
    simp only [readEntry, Argument.entries?, bind_eq_ok_iff, hsource] at h
    obtain ⟨name, hname, subject, -, params, hparams, h⟩ := h
    split at h
    · cases h
    · simp only [bind_eq_ok_iff, mapError_eq_ok_iff] at h
      obtain ⟨search, hsearch, hn⟩ := h
      cases hn
      refine ⟨entries, rfl, hname, subject, params, hparams, ?_⟩
      -- the entry has no document and some fields, or a document and no fields; anything else is
      -- refused
      unfold buildSearch at hsearch
      split at hsearch
      · split at hsearch
        · cases hsearch
        · next hsome => exact Or.inl ⟨by simpa using hsome, hsearch⟩
      · next hdocument =>
        split at hsearch
        · refine Or.inr ⟨fun hnull => hdocument ?_, hsearch⟩
          rw [hnull]
          rfl
        · cases hsearch
  | _ => cases h

/-- The search that an entry describes can be sent, whichever way it is described. -/
theorem sendable_of_readEntry {d : Data} {key : String} {n : NamedSearch}
    (h : readEntry (.data d) key = .ok n) : n.search.Sendable := by
  obtain ⟨entries, -, -, subject, params, -, ⟨-, hflat⟩ | ⟨-, hdocument⟩⟩ := search_of_readEntry h
  · exact Search.sendable_of_ofAllParams hflat
  · exact Search.sendable_of_ofExplicit hdocument

/-- Every search is read from an entry of the list, by induction on the list. -/
theorem entry_of_readEntries {i : Nat} {values : List Data} {searches : List NamedSearch}
    (h : readEntries i values = .ok searches) :
    ∀ n ∈ searches, ∃ d ∈ values, ∃ key, readEntry (.data d) key = .ok n := by
  induction values generalizing i searches with
  | nil =>
    cases h
    exact fun n hn => absurd hn List.not_mem_nil
  | cons value rest ih =>
    simp only [readEntries, bind_eq_ok_iff] at h
    obtain ⟨search, hsearch, others, hothers, heq⟩ := h
    cases heq
    refine List.forall_mem_cons.mpr ⟨⟨value, List.mem_cons_self, _, hsearch⟩, ?_⟩
    intro n hn
    obtain ⟨d, hd, hread⟩ := ih hothers n hn
    exact ⟨d, List.mem_cons_of_mem value hd, hread⟩

/-- An object that is required stands under its key. -/
theorem getD_of_objectAt {raw entries : Record} {key : String}
    (h : objectAt raw key true = .ok entries) : raw.getD key = .map entries := by
  unfold objectAt at h
  split at h
  · cases h
  · next hentries => cases h; exact hentries
  · cases h

/-- The searches are read from a list, and the further parameters, if there are some, from an object
    among the settings of searching. -/
theorem parts_of_readSearch {raw : Record} {s : SearchSettings} (h : readSearch raw = .ok s) :
    (∃ values, raw.getD "queries" = .list values ∧ readEntries 0 values = .ok s.searches) ∧
      ∃ entries, objectAt raw "search" true = .ok entries ∧
        (s.returnInfo = [] ∨
          object (entries.getD "return_info") "search.return_info" = .ok s.returnInfo) := by
  unfold readSearch at h
  split at h
  · cases h
  · next values hvalues =>
    simp only [bind_eq_ok_iff] at h
    obtain ⟨searches, hsearches, entries, hentries, _, -, _, -, _, -, _, -, _, -, _, -, h⟩ := h
    split at h
    · cases h
      exact ⟨⟨values, hvalues, hsearches⟩, entries, hentries, Or.inl rfl⟩
    · obtain ⟨returnInfo, hreturnInfo, heq⟩ := bind_eq_ok_iff.mp h
      cases heq
      exact ⟨⟨values, hvalues, hsearches⟩, entries, hentries, Or.inr hreturnInfo⟩
  · cases h

/-- Every search of the settings is read from an entry of that list. -/
theorem entry_of_readSearch {raw : Record} {s : SearchSettings} (h : readSearch raw = .ok s) :
    ∀ n ∈ s.searches, ∃ values, raw.getD "queries" = .list values ∧
      ∃ d ∈ values, ∃ key, readEntry (.data d) key = .ok n := by
  obtain ⟨⟨values, hvalues, hsearches⟩, -⟩ := parts_of_readSearch h
  exact fun n hn => ⟨values, hvalues, entry_of_readEntries hsearches n hn⟩

/-- The searches of accepted settings are read from the raw ones. -/
theorem readSearch_of_read {environment : Environment} {raw : Record} {settings : Settings}
    (h : Settings.read environment raw = .ok settings) :
    readSearch raw = .ok settings.search := by
  simp only [Settings.read, bind_eq_ok_iff] at h
  obtain ⟨_, -, _, -, search, hsearch, _, -, _, -, _, -, _, -, _, -, heq⟩ := h
  cases heq
  exact hsearch

/-! ## Checks

A check that refuses in some condition is passed exactly when the condition does not hold, so that a
passed sequence of checks is a list of facts. -/

/-- A check is passed when its condition does not hold. -/
theorem refuseWhen_eq_ok_iff {condition : Bool} {fault : SettingFault} {u : Unit} :
    refuseWhen condition fault = .ok u ↔ condition = false := by
  cases condition <;> simp [refuseWhen]

/-- What is known of settings that were accepted, as far as it is checked again later: by the client
    (`delay`, `retries`), by the pagers (`batch`, `limit`), by the choice of formats, and when
    requests are built (`searches`). -/
structure Settings.Accepted (s : Settings) : Prop where
  delay : ¬ s.service.minDelay < 0
  retries : 0 ≤ s.service.retries
  batch : 1 ≤ s.search.batchSize
  limit : s.search.maxItems = -1 ∨ 1 ≤ s.search.maxItems
  formats : s.output.formats ≠ [] ∧ ∀ name ∈ s.output.formats, name ∈ knownFormats
  searches : ∀ n ∈ s.search.searches, n.search.Sendable

/-- The formats are known, and there is one.  The check names the unknown formats in order, and
    passes when there are none to name. -/
theorem OutputSettings.check_ok {s : OutputSettings} {u : Unit} (h : s.check = .ok u) :
    s.formats ≠ [] ∧ ∀ name ∈ s.formats, name ∈ knownFormats := by
  simp only [check, bind_eq_ok_iff, refuseWhen_eq_ok_iff] at h
  obtain ⟨_, -, _, hsome, hknown⟩ := h
  refine ⟨by simpa using hsome, ?_⟩
  intro name hname
  -- an unknown name would be among those that the check puts in order
  by_contra hunknown
  have hmem : name ∈ Text.sorted (s.formats.filter (!knownFormats.contains ·)) := by
    rw [Text.sorted, List.mem_mergeSort, List.mem_filter]
    exact ⟨hname, by simpa using hunknown⟩
  have hnil : Text.sorted (s.formats.filter (!knownFormats.contains ·)) = [] := by
    simpa using hknown
  rw [hnil] at hmem
  cases hmem

/-- **Settings that were read have been checked.**  What is kept of the checks is what is asked
    again later. -/
theorem accepted_of_read {environment : Environment} {raw : Record} {settings : Settings}
    (h : Settings.read environment raw = .ok settings) : settings.Accepted := by
  -- searches are read before the checks, and the checks do not look at them
  have hsearches : ∀ n ∈ settings.search.searches, n.search.Sendable := by
    intro n hn
    obtain ⟨_, -, d, -, key, hentry⟩ := entry_of_readSearch (readSearch_of_read h) n hn
    exact sendable_of_readEntry hentry
  simp only [Settings.read, bind_eq_ok_iff] at h
  obtain ⟨journal, -, service, -, search, -, output, -, h⟩ := h
  obtain ⟨_, -, _, hservice, _, hchecked, _, houtput, heq⟩ := h
  cases heq
  simp only [ServiceSettings.check, bind_eq_ok_iff, refuseWhen_eq_ok_iff,
    decide_eq_false_iff_not] at hservice
  obtain ⟨_, -, _, -, _, -, _, hdelay, _, hretries, -⟩ := hservice
  simp only [SearchSettings.check, bind_eq_ok_iff, refuseWhen_eq_ok_iff,
    decide_eq_false_iff_not] at hchecked
  obtain ⟨_, -, _, hlimit, _, hbatch, -⟩ := hchecked
  have hnatural : 0 ≤ service.retries := Int.not_lt.mp hretries
  have hpositive : 1 ≤ search.batchSize := by omega
  have hwanted : search.maxItems = -1 ∨ 1 ≤ search.maxItems := by omega
  exact {
    delay := hdelay
    retries := hnatural
    batch := hpositive
    limit := hwanted
    formats := OutputSettings.check_ok houtput
    searches := hsearches }

/-! ## What is checked again

Each lemma is about one of the places that check again. -/

/-- The further parameters of the settings are those that are set in a request.  On the way an empty
    mapping becomes nothing, which sets nothing either. -/
theorem SearchSettings.optionalEntries_returnInfo (s : SearchSettings) :
    s.collectOptions.pagerOptions.returnInfo.optionalEntries = .ok s.returnInfo := by
  show (if (Data.map s.returnInfo).truthy then Data.map s.returnInfo else .null).optionalEntries = _
  split
  · exact Data.optionalEntries_map s.returnInfo
  · next hempty =>
    have hnil : s.returnInfo = [] := by simpa [Data.truthy] using hempty
    rw [hnil]
    rfl

namespace Settings.Accepted

variable {s : Settings}

/-- With a key the client is made: its delay and its number of retries are not negative. -/
theorem client (h : s.Accepted) (hkey : s.service.apiKey ≠ "") :
    ∃ client, s.service.client = .ok client := by
  -- neither the key, nor the number of retries, nor the delay is refused
  have hgiven : s.service.apiKey.isEmpty = false := by simpa using hkey
  have hpacer : Pacer.make s.service.minDelay = .ok ⟨s.service.minDelay, none⟩ := if_neg h.delay
  have hretries : ¬ s.service.retries < 0 := Int.not_lt.mpr h.retries
  rw [ServiceSettings.client, hgiven, Client.make, if_neg hretries, hpacer]
  exact ⟨_, rfl⟩

/-- There is a format to write: the first name is that of a known format, which is found among all
    of them. -/
theorem chosenFormats (h : s.Accepted) : ∃ formats, s.output.chosenFormats = .ok formats := by
  obtain ⟨hne, hknown⟩ := h.formats
  obtain ⟨name, rest, hcons⟩ := List.exists_cons_of_ne_nil hne
  have hfirst : name ∈ s.output.formats := by
    rw [hcons]
    exact List.mem_cons_self
  -- every known name is that of a format
  have hevery : ∀ name ∈ knownFormats, ∃ f ∈ Report.Format.every, f.name = name := by decide
  obtain ⟨f, hf, hname⟩ := hevery name (hknown name hfirst)
  have hmem : f ∈ Report.Format.every.filter fun f => s.output.formats.contains f.name := by
    rw [List.mem_filter, hname]
    exact ⟨hf, by simpa using hfirst⟩
  rw [OutputSettings.chosenFormats, Report.Format.chosen]
  split
  · next hnil =>
    rw [hnil] at hmem
    cases hmem
  · exact ⟨_, rfl⟩

/-- **Every search has a pager, which wants something**, and a page of it can be asked for when the
    query has a text.  The size of a page is positive and the limit is none or positive, as checked;
    with a limit of zero there would be no request at all. -/
theorem pager (h : s.Accepted) (n : NamedSearch) :
    ∃ p, (n.pager s.search.collectOptions).2 = .ok p ∧ p.query = .search n.search ∧
      p.listing.kind = n.search.subject.listingKind ∧ p.limit ≠ some 0 ∧
      ∀ served, (∃ body, p.query.body [(p.request served).2] = .ok body) ↔
        ∃ text, n.search.documentText = .ok text := by
  -- the limit is accepted, and it is not zero
  have hlow : -1 ≤ s.search.maxItems := by
    have := h.limit
    omega
  obtain ⟨⟨size, hsize⟩, limit, hlimit⟩ := Pager.accepts h.batch hlow
  have hwanted : limit ≠ some 0 := by
    have hvalue := (Pager.limit_eq_ok_iff.mp hlimit).2
    split at hvalue
    · simp [hvalue]
    · have := h.limit
      simp only [hvalue, ne_eq, Option.some.injEq]
      omega
  have hkind : n.search.subject.listingKind ≠ .eventArticles := by
    cases n.search.subject <;> decide
  have hextra := s.search.optionalEntries_returnInfo
  simp only [NamedSearch.pager, Pager.ofSearch, if_true, CollectOptions.pagerOptions,
    SearchSettings.collectOptions, hsize, hlimit]
  exact ⟨_, rfl, rfl, rfl, hwanted, fun served => Search.body_eq_ok_iff hkind hextra⟩

end Settings.Accepted

/-! ## Ready to run -/

/-- The first request of a search: it asks for page 1 of what the search looks for.  It can be built
    exactly when the integers of the query are short. -/
structure FirstRequest (n : NamedSearch) (request : Query × Section) : Prop where
  query : request.1 = .search n.search
  page : ∃ l : Listing, request.2 = .listing l ∧ l.kind = n.search.subject.listingKind ∧ l.page = 1
  built : (∃ body, request.1.body [request.2] = .ok body) ↔ n.search.HasShortIntegers

/-- **With accepted settings and a key the client and the formats are there; and every search,
    whoever answers it, comes to its first request, which can be built when its integers are
    short.**  Nothing is assumed of the service: the first request does not depend on any answer. -/
theorem Settings.ready_of_read {environment : Environment} {raw : Record} {settings : Settings}
    (h : Settings.read environment raw = .ok settings) (hkey : settings.service.apiKey ≠ "") :
    (∃ client, settings.service.client = .ok client) ∧
    (∃ formats, settings.output.chosenFormats = .ok formats) ∧
    ∀ n ∈ settings.search.searches, ∃ request, FirstRequest n request ∧
      ∀ {σ : Type} (d : Dispatcher σ) (fuel : Nat) (s : σ),
        (n.requestsIn d settings.search.collectOptions (fuel + 1) s).head? = some request := by
  have haccepted := accepted_of_read h
  refine ⟨haccepted.client hkey, haccepted.chosenFormats, ?_⟩
  intro n hn
  obtain ⟨p, hp, hquery, hkind, hlimit, hbody⟩ := haccepted.pager n
  refine ⟨p.request 0, ⟨hquery, ⟨_, rfl, hkind, rfl⟩, ?_⟩, ?_⟩
  · exact (hbody 0).trans (haccepted.searches n hn).documentText_eq_ok_iff
  · intro σ d fuel s
    rw [NamedSearch.requestsIn_eq d hp]
    exact p.head_requestsIn d fuel s hlimit

/-- A configuration with the given list of searches. -/
def rawWith (queries : List Data) : Record := [
  (.text "log", .map [
    (.text "level", .text "info"), (.text "to_file", .bool false), (.text "dir", .text "logs")]),
  (.text "api", .map [
    (.text "api_key_env", .text "NEWS_KEY"), (.text "host", .text "https://eventregistry.org"),
    (.text "min_delay_between_requests", .int 1), (.text "repeat_failed_request_count", .int 2),
    (.text "timeout", .float 30)]),
  (.text "queries", .list queries),
  (.text "search", .map [
    (.text "max_items", .int (-1)), (.text "batch_size", .int 500),
    (.text "return_info", .map [(.text "articleBodyLen", .int 0)])]),
  (.text "output", .map [
    (.text "formats", .list [.text "console", .text " JSON "]), (.text "base_dir", .text "out")])]

/-- An environment with a key. -/
def keyEnvironment : Environment := [("NEWS_KEY", " secret ")]

/-- Two searches, one field by field and one as a document. -/
def weeklyQueries : List Data := [
  .map [(.text "TYPE", .text "events"), (.text "keywords", .list [.text "solar", .text "wind"]),
    (.text "min_articles_in_event", .int 5)],
  .map [(.text "NAME", .text "grid"),
    (.text "COMPLEX", .text "\x7b\"$query\": \x7b\"lang\": [\"eng\", \"deu\"]\x7d\x7d")]]

/-- With these settings everything is there, and the first requests are built. -/
theorem Settings.ready_of_read_weekly :
    ∃ settings, Settings.read keyEnvironment (rawWith weeklyQueries) = .ok settings ∧
      settings.service.apiKey ≠ "" ∧
      (∃ client, settings.service.client = .ok client) ∧
      (∃ formats, settings.output.chosenFormats = .ok formats) ∧
      settings.search.searches.length = 2 ∧
      ∀ n ∈ settings.search.searches, ∃ request, FirstRequest n request ∧
        (∃ body, request.1.body [request.2] = .ok body) ∧
        ∀ {σ : Type} (d : Dispatcher σ) (fuel : Nat) (s : σ),
          (n.requestsIn d settings.search.collectOptions (fuel + 1) s).head? = some request := by
  -- the settings are evaluated once, for the key and for the texts of both queries
  have hread : ((Settings.read keyEnvironment (rawWith weeklyQueries)).toOption.map fun s =>
      (s.service.apiKey, s.search.searches.map fun n =>
        n.search.documentText.toOption.map fun _ => ())) =
        some ("secret", [some (), some ()]) := by decide +kernel
  obtain ⟨settings, hsettings, hfound⟩ := ok_of_toOption_map hread
  obtain ⟨hsecret, htexts⟩ := Prod.mk.inj hfound
  have hkey : settings.service.apiKey ≠ "" := by
    rw [hsecret]
    decide
  have htwo : settings.search.searches.length = 2 := by
    simpa using congrArg List.length htexts
  obtain ⟨hclient, hformats, hrequests⟩ := Settings.ready_of_read hsettings hkey
  refine ⟨settings, hsettings, hkey, hclient, hformats, htwo, ?_⟩
  intro n hn
  obtain ⟨request, hfirst, hsent⟩ := hrequests n hn
  have hall : ∀ o ∈ settings.search.searches.map fun n =>
      n.search.documentText.toOption.map fun _ => (), o = some () := by
    rw [htexts]
    decide
  obtain ⟨text, htext, -⟩ := ok_of_toOption_map (hall _ (List.mem_map_of_mem hn))
  have hsendable := (accepted_of_read hsettings).searches n hn
  have hshort := hsendable.documentText_eq_ok_iff.mp ⟨text, htext⟩
  exact ⟨request, hfirst, hfirst.built.mpr hshort, hsent⟩

/-- A search for events with an integer that cannot be written in decimal. -/
def hugeQueries : List Data := [
  .map [(.text "TYPE", .text "events"),
    (.text "min_articles_in_event", .int (Number.pow10 Text.digitLimit))]]

/-- It is accepted, and its first request cannot be built.  So the condition on the integers is
    needed. -/
theorem Settings.exists_unbuildable_request :
    ∃ settings, Settings.read keyEnvironment (rawWith hugeQueries) = .ok settings ∧
      settings.service.apiKey ≠ "" ∧
      ∃ n ∈ settings.search.searches, ∃ p, (n.pager settings.search.collectOptions).2 = .ok p ∧
        ∃ fault, p.query.body [(p.request 0).2] = .error fault := by
  -- the settings are evaluated, and so is the attempt to build the body of the first request
  have hread : ((Settings.read keyEnvironment (rawWith hugeQueries)).toOption.map fun s =>
      (s.service.apiKey, s.search.searches.map fun n =>
        (n.pager s.search.collectOptions).2.toOption.map fun p =>
          (p.query.body [(p.request 0).2]).toOption.isSome)) =
        some ("secret", [some false]) := by decide +kernel
  obtain ⟨settings, hsettings, hfound⟩ := ok_of_toOption_map hread
  obtain ⟨hsecret, hbodies⟩ := Prod.mk.inj hfound
  refine ⟨settings, hsettings, by rw [hsecret]; decide, ?_⟩
  obtain ⟨n, rest, hsearches, hn, -⟩ := List.map_eq_cons_iff.mp hbodies
  refine ⟨n, by rw [hsearches]; exact List.mem_cons_self, ?_⟩
  obtain ⟨p, hp, hbody⟩ := ok_of_toOption_map hn
  refine ⟨p, hp, ?_⟩
  cases hresult : p.query.body [(p.request 0).2] with
  | error fault => exact ⟨fault, rfl⟩
  | ok body =>
    rw [hresult] at hbody
    cases hbody

end NewsSearch.Config
