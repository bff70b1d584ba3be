import NewsSearch.Proofs.Command.AllSearches
import NewsSearch.Proofs.Config.DescribedSearches

/-!
What compiling shows.

Compiling shows the requests of all searches as JSON, on indented lines and with any characters as
they are.  The document of a query travels as a text within the body; to be shown, that text is
read, and what it is read as stands in its place.

1. The body of a search asks for the usual listing, with the document as a text
   (`requestBody_standard`).  The document of a configured search has a JSON form of its own, so
   that it is read back from that text, and what is shown for the query is the document itself
   (`compiledRequest_eq_ok_iff`).
2. The whole request has a JSON form, too: its keys are a few words, and its other values are texts
   of the library and small integers (`isJson_shownRequest`).  Its integers are those of the query
   (`isShort_shownRequest`).
3. So the list of all requests is written when the integers of the queries are short
   (`compiledText_eq_ok_iff`), and it is read back from the text that is shown
   (`read_compiledText`).
4. The command completes exactly when that text exists, and shows it behind what the journal shows.

Nothing is asked for but short integers, when the texts of the searches are whole.

Main statement: `compile_readBack`.
-/

namespace NewsSearch.Command

open Text

/-! ## Requests as they are shown

The object that is shown for a search is given here in full, so that what is read back can be
compared with it. -/

/-- The parameters with which a search asks for the usual listing. -/
def standardParams (subject : Subject) : List (String × Data) :=
  let kind := subject.listingKind
  [("resultType", .text kind.sectionType),
    (kind.sectionType ++ "Page", .int 1),
    (kind.sectionType ++ "Count", .int kind.defaultCount),
    (kind.sectionType ++ "SortByAsc", .bool false),
    (kind.sectionType ++ "SortBy", .text kind.defaultSort)]

/-- The body with which a search asks for the usual listing, when its query is given in this way. -/
def bodyWith (subject : Subject) (query : Data) : Record :=
  Record.ofTexts (("query", query) :: standardParams subject)

/-- The request of a search, with the compiled document as the query of the payload. -/
def shownRequest (n : NamedSearch) : Data :=
  .map (Record.ofTexts [
    ("name", Report.optionalText n.name),
    ("type", .text n.search.subject.target.word),
    ("path", .text n.search.subject.path),
    ("payload", .map (bodyWith n.search.subject (.map n.search.document)))])

/-- The body has the query as a text. -/
theorem requestBody_standard (subject : Subject) (text : String) :
    requestBody (.map [(.text "query", .text text)]) [Search.standardSection subject] =
      .ok (bodyWith subject (.text text)) := by
  cases subject <;> rfl

/-- The object that the text is read as takes its place. -/
theorem withDocument_bodyWith {subject : Subject} {text : String} {document : Data}
    (hread : Json.read text = .ok document) :
    withDocument (bodyWith subject (.text text)) = .ok (bodyWith subject document) := by
  have hget : (bodyWith subject (.text text)).get? "query" = some (.text text) := rfl
  have hset : (bodyWith subject (.text text)).set "query" document =
      bodyWith subject document := rfl
  simp only [withDocument, hget, hread, hset]

/-- The request of a search as it is shown, with this payload. -/
def requestShown (n : NamedSearch) (payload : Record) : Data :=
  .map (Record.ofTexts [
    ("name", Report.optionalText n.name),
    ("type", .text n.search.subject.target.word),
    ("path", .text n.search.subject.path),
    ("payload", .map payload)])

/-- A search is shown with what the text of its query is read as. -/
theorem compiledRequest_of_read {n : NamedSearch} (h : n.search.Described) {text : String}
    (htext : n.search.documentText = .ok text) {document : Data}
    (hread : Json.read text = .ok document) :
    compiledRequest n = .ok (requestShown n (bodyWith n.search.subject document)) := by
  have hbody : n.search.body [] = .ok (bodyWith n.search.subject (.text text)) := by
    rw [Search.body, htext, h.sections]
    exact requestBody_standard n.search.subject text
  simp only [compiledRequest, Query.body, hbody, withDocument_bodyWith hread, bind, Except.bind]
  rfl

/-- A search without a text of its query is not shown. -/
theorem compiledRequest_of_error {n : NamedSearch} {fault : Fault}
    (htext : n.search.documentText = .error fault) : compiledRequest n = .error fault := by
  simp only [compiledRequest, Query.body, Search.body, htext, bind, Except.bind]

/-- **A configured search of whole texts is shown with its document, when its integers are short.**
    The text of the query exists exactly then; and the text is read as the document from which it
    was written. -/
theorem compiledRequest_eq_ok_iff {n : NamedSearch} (h : n.search.Described) (hwhole : n.IsWhole)
    (d : Data) :
    compiledRequest n = .ok d ↔ n.search.HasShortIntegers ∧ d = shownRequest n := by
  have htexts := h.regular.sendable.documentText_eq_ok_iff
  cases htext : n.search.documentText with
  | error fault =>
    have hlong : ¬ n.search.HasShortIntegers := by
      intro hshort
      obtain ⟨text, hok⟩ := htexts.mpr hshort
      rw [htext] at hok
      cases hok
    rw [compiledRequest_of_error htext]
    refine iff_of_false ?_ fun hboth => hlong hboth.1
    intro hshown
    cases hshown
  | ok text =>
    -- the text is that of the document, and is read as the document
    have hjson := h.regular.isJson hwhole.search
    have hread : Json.read text = .ok (.map n.search.document) :=
      Json.read_write hjson (mapError_eq_ok_iff.mp htext)
    have hshown : compiledRequest n = .ok (shownRequest n) := compiledRequest_of_read h htext hread
    rw [hshown, Except.ok.injEq]
    exact ⟨fun heq => ⟨htexts.mp ⟨text, htext⟩, heq.symm⟩, fun hboth => hboth.2.symm⟩

/-! ## Requests are JSON

What is put around the query is the same for every search on a subject, so that it is enough to look
at the subjects. -/

/-- The keys of the body with which a search asks for the usual listing. -/
def bodyKeys (subject : Subject) : List String := "query" :: (standardParams subject).map (·.1)

/-- The parameters have a JSON form of their own and short integers. -/
theorem standardParams_plain (subject : Subject) :
    ∀ p ∈ standardParams subject, Json.IsJson p.2 ∧ p.2.IsShort := by
  have htext {s : String} (hs : IsWhole s) : Json.IsJson (.text s) ∧ (Data.text s).IsShort :=
    ⟨.scalar (.text hs), .scalar (by rintro n ⟨⟩)⟩
  have hint {n : Int} (hn : n.natAbs < Number.pow10 digitLimit) :
      Json.IsJson (.int n) ∧ (Data.int n).IsShort :=
    ⟨.scalar (.int n), .scalar (Scalar.isShort_int_iff.mpr hn)⟩
  have hbool (b : Bool) : Json.IsJson (.bool b) ∧ (Data.bool b).IsShort :=
    ⟨.scalar (.bool b), .scalar (by rintro n ⟨⟩)⟩
  simp only [standardParams, List.forall_mem_cons]
  refine ⟨htext ?_, hint ?_, hint ?_, hbool false, htext ?_, List.forall_mem_nil _⟩
  all_goals cases subject <;> decide +kernel

variable {query : Data}

/-- The body has a JSON form of its own when the query has. -/
theorem isJson_bodyWith (subject : Subject) (h : Json.IsJson query) :
    Json.IsJson (.map (bodyWith subject query)) := by
  have honce : (bodyKeys subject).Nodup := by cases subject <;> decide
  have hkeys : ∀ key ∈ bodyKeys subject, IsWhole key := by cases subject <;> decide
  refine Json.isJson_ofTexts honce hkeys ?_
  exact List.forall_mem_cons.mpr ⟨h, fun p hp => (standardParams_plain subject p hp).1⟩

/-- Values with short integers under names are a mapping with short integers. -/
theorem isShort_ofTexts {pairs : List (String × Data)} (h : ∀ p ∈ pairs, p.2.IsShort) :
    (Data.map (Record.ofTexts pairs)).IsShort :=
  .map (fun _ _ => trivial) (List.forall_mem_map.mpr h)

/-- The integers of the body are those of the query, and small ones. -/
theorem isShort_bodyWith (subject : Subject) (h : query.IsShort) :
    (Data.map (bodyWith subject query)).IsShort :=
  isShort_ofTexts (List.forall_mem_cons.mpr ⟨h, fun p hp => (standardParams_plain subject p hp).2⟩)

/-- The keys of the object of a request. -/
def requestKeys : List String := ["name", "type", "path", "payload"]

section Request

variable {n : NamedSearch} (h : n.search.Described)
include h

/-- The request of a configured search of whole texts has a JSON form of its own. -/
theorem isJson_shownRequest (hwhole : n.IsWhole) : Json.IsJson (shownRequest n) := by
  have honce : requestKeys.Nodup := by decide
  have hkeys : ∀ key ∈ requestKeys, IsWhole key := by decide
  have hpath : IsWhole n.search.subject.path := by
    cases n.search.subject <;> decide
  refine Json.isJson_ofTexts honce hkeys ?_
  simp only [List.forall_mem_cons]
  exact ⟨Report.isJson_optionalText hwhole.name, .scalar (.text (Report.isWhole_word _)),
    .scalar (.text hpath), isJson_bodyWith _ (h.regular.isJson hwhole.search),
    List.forall_mem_nil _⟩

/-- Its integers are those of the query, and small ones. -/
theorem isShort_shownRequest (hshort : n.search.HasShortIntegers) : (shownRequest n).IsShort := by
  have htext (s : String) : (Data.text s).IsShort := .scalar (by rintro n ⟨⟩)
  have hname : (Report.optionalText n.name).IsShort := by
    cases n.name with
    | none => exact .scalar (by rintro n ⟨⟩)
    | some s => exact htext s
  have hdocument := h.regular.sendable.isShort_document_iff.mpr hshort
  refine isShort_ofTexts ?_
  simp only [List.forall_mem_cons]
  exact ⟨hname, htext _, htext _, isShort_bodyWith _ hdocument, List.forall_mem_nil _⟩

end Request

/-! ## All requests as one text

The text is written in the format for files, which keeps all characters; so it must be possible to
write it in bytes, which whole texts are. -/

section Searches

variable {searches : List NamedSearch} (h : ∀ n ∈ searches, n.search.Described)
  (hwhole : ∀ n ∈ searches, n.IsWhole)
include h hwhole

/-- The list of the requests has a JSON form of its own. -/
theorem isJson_requests : Json.IsJson (.list (searches.map shownRequest)) :=
  .list (List.forall_mem_map.mpr fun n hn => isJson_shownRequest (h n hn) (hwhole n hn))

/-- It can be written when the integers of the queries are short: with the shape of JSON nothing
    else is in the way. -/
theorem fault?_requests (hshort : ∀ n ∈ searches, n.search.HasShortIntegers) :
    Json.fault? false (.list (searches.map shownRequest)) = none := by
  refine (Json.fault?_eq_none_iff (isJson_requests h hwhole).shaped).mpr (.list ?_)
  exact List.forall_mem_map.mpr fun n hn => isShort_shownRequest (h n hn) (hshort n hn)

/-- Configured searches of whole texts are shown when their integers are short, as the list of their
    requests. -/
theorem compiledText_eq_ok_iff {text : String} :
    compiledText searches = .ok text ↔ (∀ n ∈ searches, n.search.HasShortIntegers) ∧
      text = String.ofList (Json.chars Json.file 0 (.list (searches.map shownRequest))) := by
  have hjson := isJson_requests h hwhole
  have hbytes := (Json.encodingFault?_file_iff hjson.shaped).mpr hjson.isEncodable
  have hrequests {shown : List Data} : searches.mapM compiledRequest = .ok shown ↔
      (∀ n ∈ searches, n.search.HasShortIntegers) ∧ shown = searches.map shownRequest :=
    mapM_eq_ok_iff fun n hn => compiledRequest_eq_ok_iff (h n hn) (hwhole n hn)
  simp only [compiledText, bind_eq_ok_iff, hrequests, mapError_eq_ok_iff]
  constructor
  · rintro ⟨_, ⟨hshort, rfl⟩, written, hwrite, hshown⟩
    rw [Json.write, fault?_requests h hwhole hshort] at hwrite
    cases hwrite
    rw [hbytes] at hshown
    cases hshown
    exact ⟨hshort, rfl⟩
  · rintro ⟨hshort, rfl⟩
    have hwrite : Json.write Json.file (.list (searches.map shownRequest)) =
        .ok (String.ofList (Json.chars Json.file 0 (.list (searches.map shownRequest)))) := by
      rw [Json.write, fault?_requests h hwhole hshort]
    refine ⟨_, ⟨hshort, rfl⟩, _, hwrite, ?_⟩
    rw [hbytes]

/-- The text is read as the list of the requests. -/
theorem read_compiledText {text : String} (htext : compiledText searches = .ok text) :
    Json.read text = .ok (.list (searches.map shownRequest)) := by
  obtain ⟨hshort, rfl⟩ := (compiledText_eq_ok_iff h hwhole).mp htext
  exact Json.read_chars Json.file (isJson_requests h hwhole) (fault?_requests h hwhole hshort)

/-- **Compiling completes when the integers of the queries are short**, and then shows a text that
    is read as the list of the requests. -/
theorem compile_readBack {ω : Type} (i : Invocation ω) (journal : OpenJournal)
    {settings : Config.Settings} (hsearches : settings.search.searches = searches) :
    ((compile i settings journal).code = 0 ↔ ∀ n ∈ searches, n.search.HasShortIntegers) ∧
      ((compile i settings journal).code = 0 → ∃ text,
        (compile i settings journal).output =
          consoleText settings journal.openingNotes ++ (text ++ "\n") ∧
        Json.read text = .ok (.list (searches.map shownRequest))) := by
  subst hsearches
  cases htext : compiledText settings.search.searches with
  | error fault =>
    have hcode : (compile i settings journal).code = 1 := by
      rw [compile, htext]
    have hlong : ¬ ∀ n ∈ settings.search.searches, n.search.HasShortIntegers := by
      intro hshort
      have hok := (compiledText_eq_ok_iff h hwhole).mpr ⟨hshort, rfl⟩
      rw [htext] at hok
      cases hok
    rw [hcode]
    exact ⟨iff_of_false Nat.one_ne_zero hlong, fun h => absurd h Nat.one_ne_zero⟩
  | ok text =>
    have hcode : (compile i settings journal).code = 0 := by
      rw [compile, htext]
    have houtput : (compile i settings journal).output =
        consoleText settings journal.openingNotes ++ (text ++ "\n") := by
      rw [compile, htext]
      simp only [List.append_nil]
    have hshort := ((compiledText_eq_ok_iff h hwhole).mp htext).1
    exact ⟨iff_of_true hcode hshort, fun _ => ⟨text, houtput, read_compiledText h hwhole htext⟩⟩

end Searches

end NewsSearch.Command
