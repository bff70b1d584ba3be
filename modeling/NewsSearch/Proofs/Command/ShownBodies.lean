import NewsSearch.Proofs.Client.Posting
import NewsSearch.Proofs.Command.ReadBack
import NewsSearch.Proofs.Json.Halves
import NewsSearch.Proofs.Paging.ListingBody

/-!
What is shown and what is posted.

Compiling shows a body for each search, so that one can see what would be sent without sending it.
Running the searches posts a body for each page.  One expects the body that is shown to be the one
that is posted for page 1.  Both are indeed put together by the same steps, but for different
listings: what is shown asks for the usual listing of its kind, and what is posted for the listing
of the settings, with their further parameters over it.

The file says exactly when the two are the same, and that they are the same in all else if they are
not.

1. The two bodies are compared key by key (`Listing.get?_listingBody`).  Under every name that
   belongs to neither listing in particular, and that the settings do not set themselves, stands the
   same (`ListingFor.same`).
2. Three names remain, for the count and for the two parts of the order.  For each of them the
   values agree just in case the settings ask for the usual one (`ListingFor.count_iff`,
   `ListingFor.ascending_iff`, `ListingFor.sortBy_iff`).  Together with the further parameters,
   which are in the usual body already or are not, this is `AsksAsUsual`, and it is equivalent to
   having the same entries (`ListingFor.sameEntries_iff`).
3. The query is no reason for a difference.  Its object is shown as it is read from the text that is
   posted, and is written as that text again, whatever its texts are (`showsBody`).
4. What is posted first for a search is the body for page 1 of the listing of the settings
   (`exists_pager`, `ListingFor.body`), and the key that goes with it is left out of the comparison.
5. A search with an integer that is too long to be written is neither shown nor posted
   (`unshown_and_unposted`).

Main statement: `shown_and_posted`.  It takes settings that ask for the usual listing to make the
two the same; with others they differ: `exists_shown_otherwise`.
-/

namespace NewsSearch.Command

open Config

/-! ## Settings that ask for the usual listing -/

/-- The listing for page 1 that searches of this kind are run over with the settings. -/
structure ListingFor (s : SearchSettings) (subject : Subject) (l : Listing) : Prop where
  kind : l.kind = subject.listingKind
  page : l.page = 1
  count : (l.count : Int) = min s.batchSize maxBatchSize
  ascending : l.ascending = .bool s.ascending
  sortBy : l.sortBy = s.collectOptions.sortBy
  further : l.extra.optionalEntries = .ok s.returnInfo

/-- **Asking as usual.**  What the settings ask for beyond the query is in this body already: the
    further parameters, apart from a key, and the count and the order where those do not say
    otherwise. -/
structure AsksAsUsual (s : SearchSettings) (subject : Subject) (usual : Record) : Prop where
  further : ∀ name v, s.returnInfo.get? name = some v → name ≠ "apiKey" → usual.get? name = some v
  count : s.returnInfo.get? (subject.listingKind.sectionType ++ "Count") = none →
    s.batchSize = subject.listingKind.defaultCount
  ascending : s.returnInfo.get? (subject.listingKind.sectionType ++ "SortByAsc") = none →
    s.ascending = false
  sortBy : s.returnInfo.get? (subject.listingKind.sectionType ++ "SortBy") = none →
    s.sortBy = some subject.listingKind.defaultSort

/-- The usual listing of searches of this kind. -/
def usualListing (subject : Subject) : Listing := .standard subject.listingKind

section Compare

variable {s : SearchSettings} {subject : Subject} {l : Listing} (h : ListingFor s subject l)
  (text : String)
include h

/-- Both listings have the same count when the batch size is the usual one, for that is not lowered.
    A batch size above the greatest is lowered to that, which is not the usual one. -/
theorem ListingFor.count_iff :
    (usualListing subject).standing text (subject.listingKind.sectionType ++ "Count") =
        l.standing text (subject.listingKind.sectionType ++ "Count") ↔
      s.batchSize = subject.listingKind.defaultCount := by
  have husual : (usualListing subject).standing text
      (subject.listingKind.sectionType ++ "Count") = some (.int subject.listingKind.defaultCount) :=
    (usualListing subject).standing_count text
  have hown := l.standing_count text
  rw [h.kind] at hown
  -- the usual count is below the greatest one, so lowering cannot produce it
  have hlow : subject.listingKind.defaultCount < maxBatchSize := by cases subject <;> decide
  have hcount := h.count
  rw [husual, hown]
  constructor
  · intro heq
    have hsame : (subject.listingKind.defaultCount : Int) = l.count := by
      simpa using heq
    omega
  · intro hbatch
    have hsame : (l.count : Int) = subject.listingKind.defaultCount := by omega
    rw [hsame]

/-- They have the same direction when the settings ask for the descending one. -/
theorem ListingFor.ascending_iff :
    (usualListing subject).standing text (subject.listingKind.sectionType ++ "SortByAsc") =
        l.standing text (subject.listingKind.sectionType ++ "SortByAsc") ↔ s.ascending = false := by
  have husual : (usualListing subject).standing text
      (subject.listingKind.sectionType ++ "SortByAsc") = some (.bool false) :=
    (usualListing subject).standing_ascending text
  have hown := l.standing_ascending text
  rw [h.kind, h.ascending] at hown
  rw [husual, hown]
  cases s.ascending <;> simp [Data.bool]

/-- They are in the same order when the settings name the usual one.  Settings without an order, or
    with a blank one, leave it out of the body, while the usual listing always names it. -/
theorem ListingFor.sortBy_iff :
    (usualListing subject).standing text (subject.listingKind.sectionType ++ "SortBy") =
        l.standing text (subject.listingKind.sectionType ++ "SortBy") ↔
      s.sortBy = some subject.listingKind.defaultSort := by
  have husual : (usualListing subject).standing text
      (subject.listingKind.sectionType ++ "SortBy") =
        some (.text subject.listingKind.defaultSort) := by
    have hall := (usualListing subject).standing_sortBy text
    -- the usual listing always has an order
    have htruthy : (usualListing subject).sortBy.truthy = true := by cases subject <;> decide
    rw [if_pos htruthy] at hall
    exact hall
  have hown := l.standing_sortBy text
  rw [h.kind, h.sortBy] at hown
  have hnonempty : subject.listingKind.defaultSort ≠ "" := by cases subject <;> decide
  rw [husual, hown, SearchSettings.collectOptions]
  cases s.sortBy with
  | none => simp [Data.truthy, Scalar.truthy]
  | some key =>
    by_cases hblank : key = ""
    · -- a blank order is left out, and the usual one is not blank
      subst hblank
      simp [Data.truthy, Data.text, Scalar.truthy, Ne.symm hnonempty]
    · have hkey : (Data.text key).truthy = true := by
        simpa [Data.truthy, Data.text, Scalar.truthy] using hblank
      simp only [hkey, if_true, Option.some.injEq, Data.text, Data.scalar.injEq, Scalar.text.injEq]
      exact eq_comm

/-- The body for the usual listing. -/
def usualBody (subject : Subject) (text : String) : Record :=
  listingBody (usualListing subject) text []

omit h in
/-- Nothing is set over the parameters of the usual listing. -/
theorem get?_usualBody (name : String) :
    (usualBody subject text).get? name = (usualListing subject).standing text name :=
  (usualListing subject).get?_listingBody text List.Pairwise.nil name

omit h in
/-- There is no key in it. -/
theorem get?_usualBody_key : (usualBody subject text).get? "apiKey" = none := by
  rw [get?_usualBody]
  cases subject <;> rfl

/-- The same stands in both bodies under every name that the settings have nothing to say about. -/
theorem ListingFor.same (honce : s.returnInfo.KeysOnce) {name : String}
    (hfurther : s.returnInfo.get? name = none)
    (hends : name ∉ settingEnds.map (subject.listingKind.sectionType ++ ·)) :
    (usualBody subject text).get? name = (listingBody l text s.returnInfo).get? name := by
  rw [get?_usualBody, l.get?_listingBody text honce, hfurther, Option.none_or]
  rw [← h.kind] at hends
  exact Listing.standing_eq h.kind.symm h.page.symm hends

/-- **When both bodies are the same.**  A body without its key has the entries of the usual one when
    the settings ask as usual.  From left to right each condition is read off at the name that it is
    about; from right to left a name is the key, one that the settings set, one of the three
    parameters, or another one. -/
theorem ListingFor.sameEntries_iff (honce : s.returnInfo.KeysOnce)
    (htexts : s.returnInfo.HasTextKeys) :
    (usualBody subject text).SameEntries ((listingBody l text s.returnInfo).without "apiKey") ↔
      AsksAsUsual s subject (usualBody subject text) := by
  have husual : (usualBody subject text).HasTextKeys :=
    (usualListing subject).hasTextKeys_listingBody text (List.forall_mem_nil _)
  have hnokey : ∀ suffix ∈ settingEnds, "apiKey" ≠ subject.listingKind.sectionType ++ suffix := by
    cases subject <;> decide
  have honceUsual : (usualBody subject text).KeysOnce :=
    (usualListing subject).keysOnce_listingBody text
  -- bodies with the same entries are those in which the same is found under every name
  rw [Record.sameEntries_iff honceUsual ((l.keysOnce_listingBody text).without _) husual
    ((l.hasTextKeys_listingBody text htexts).without _)]
  simp only [Record.get?_without, l.get?_listingBody text honce]
  constructor
  · intro hsame
    -- under a parameter that the settings do not set the listings themselves agree
    have hset {suffix : String} (hsuffix : suffix ∈ settingEnds)
        (hnone : s.returnInfo.get? (subject.listingKind.sectionType ++ suffix) = none) :
        (usualListing subject).standing text (subject.listingKind.sectionType ++ suffix) =
          l.standing text (subject.listingKind.sectionType ++ suffix) := by
      have hall := hsame (subject.listingKind.sectionType ++ suffix)
      rwa [get?_usualBody, if_neg (hnokey suffix hsuffix), hnone, Option.none_or] at hall
    constructor
    · intro name v hv hname
      rw [hsame, if_neg (Ne.symm hname), hv, Option.some_or]
    · exact fun hnone => (h.count_iff text).mp (hset (by decide) hnone)
    · exact fun hnone => (h.ascending_iff text).mp (hset (by decide) hnone)
    · exact fun hnone => (h.sortBy_iff text).mp (hset (by decide) hnone)
  · intro husually name
    by_cases hkey : "apiKey" = name
    · subst hkey
      rw [if_pos rfl, get?_usualBody_key]
    · rw [if_neg hkey]
      cases hfurther : s.returnInfo.get? name with
      | some v => exact husually.further name v hfurther (Ne.symm hkey)
      | none =>
        rw [Option.none_or, get?_usualBody]
        by_cases hends : name ∈ settingEnds.map (subject.listingKind.sectionType ++ ·)
        · -- one of the three parameters, which the settings leave as it is
          simp only [settingEnds, List.map_cons, List.map_nil, List.mem_cons, List.not_mem_nil,
            or_false] at hends
          rcases hends with rfl | rfl | rfl
          · exact (h.count_iff text).mpr (husually.count hfurther)
          · exact (h.ascending_iff text).mpr (husually.ascending hfurther)
          · exact (h.sortBy_iff text).mpr (husually.sortBy hfurther)
        · rw [← h.kind] at hends
          exact Listing.standing_eq h.kind.symm h.page.symm hends

end Compare

/-! ## What is shown

The object of the query is shown as data, and it is posted as a text.  To compare them the object is
encoded again. -/

/-- A payload is shown for the search, and it is this body when the object of its query is encoded
    as text again. -/
def ShowsBody (n : NamedSearch) (body : Record) : Prop :=
  ∃ payload text, compiledRequest n = .ok (requestShown n payload) ∧
    Json.write Json.wire (payload.getD "query") = .ok text ∧ body = payload.set "query" (.text text)

/-- The document of a regular search with short integers is read as something that is written as the
    same text.  It need not be read as itself: a text with two halves of a surrogate pair is read as
    one character, which is written the same. -/
theorem rereads_document {s : Search} (h : s.Regular) (hshort : s.HasShortIntegers) :
    Json.Rereads (.map s.document) := by
  refine ParsedDocument.formed_compiled Json.formed_rereads h.sendable (fun n hn c hc => ?_)
    h.filters
  -- the value of a condition is a text or an integer
  rcases (h.sendable n hn c hc).value with ⟨t, ht⟩ | ⟨k, hk⟩
  · rw [ht]
    exact Json.rereads_text t
  · rw [hk]
    have hsmall : (Data.int k).IsShort :=
      .scalar (Scalar.isShort_int_iff.mpr (hshort n hn c hc k hk))
    have hjson : Json.IsJson (.int k) := .scalar (.int k)
    exact Json.rereads_of_isJson hjson ((Json.fault?_eq_none_iff hjson.shaped).mpr hsmall)

/-- What is shown of a configured search is the body for the usual listing, whatever its texts
    are. -/
theorem showsBody {n : NamedSearch} (h : n.search.Described) {text : String}
    (htext : n.search.documentText = .ok text) : ShowsBody n (usualBody n.search.subject text) := by
  have hshort := h.regular.sendable.documentText_eq_ok_iff.mp ⟨text, htext⟩
  obtain ⟨document, hread, hwrite⟩ :=
    Json.write_reread (rereads_document h.regular hshort) (mapError_eq_ok_iff.mp htext)
  -- the object of the query is put in its place, and taken out again as it is
  have hquery : (bodyWith n.search.subject document).getD "query" = document := rfl
  have hbody : usualBody n.search.subject text =
      (bodyWith n.search.subject document).set "query" (.text text) := by
    cases n.search.subject <;> rfl
  refine ⟨bodyWith n.search.subject document, text, compiledRequest_of_read h htext hread, ?_,
    hbody⟩
  rw [hquery]
  exact hwrite

/-! ## What is posted

Whatever a session has done before, the first request of a search is for page 1. -/

/-- Whatever the surroundings are and whatever the session has done before, this is posted first
    when the search is collected over the connection of the client. -/
def PostsFirst (client : Client Float) (options : CollectOptions) (n : NamedSearch)
    (post : Post) : Prop :=
  ∀ {ω : Type} (net : Surroundings Float ω) (fuel : Nat) (s : Session Float ω),
    s.PostsFirst post
      (n.collect (client.connection net).dispatcher options (fuel + 1) s).state

/-- The session is left as it is when the search is collected, so that nothing is posted. -/
def PostsNothing (client : Client Float) (options : CollectOptions) (n : NamedSearch) : Prop :=
  ∀ {ω : Type} (net : Surroundings Float ω) (fuel : Nat) (s : Session Float ω),
    (n.collect (client.connection net).dispatcher options fuel s).state = s

/-- A search is collected from page 1 of the listing of the settings on. -/
theorem exists_pager {settings : Settings} (h : settings.Accepted) (n : NamedSearch) :
    ∃ p, (n.pager settings.search.collectOptions).2 = .ok p ∧ p.limit ≠ some 0 ∧
      p.query = .search n.search ∧
        ListingFor settings.search n.search.subject (p.listing.afterPages 0) := by
  obtain ⟨p, hp, hquery, hkind, hlimit, -⟩ := h.pager n
  -- what the settings say is what the pager keeps
  obtain ⟨-, hsort, hascending⟩ := Pager.order_of_ofSearch hp
  obtain ⟨-, -, hextra, -, batch, hbatch, -, hcount⟩ := (Pager.MadeFor.search hp).values
  cases hbatch
  refine ⟨p, hp, hlimit, hquery, hkind, rfl, hcount, hascending, hsort, ?_⟩
  rw [← settings.search.optionalEntries_returnInfo, ← hextra]
  rfl

/-- The body for page 1 of that listing: no languages are asked for, since it is none of the
    articles of an event. -/
theorem ListingFor.body {s : SearchSettings} {q : Search} {l : Listing}
    (h : ListingFor s q.subject l) {text : String} (htext : q.documentText = .ok text) :
    (Query.search q).body [.listing l] = .ok (listingBody l text s.returnInfo) := by
  have hkind : l.kind ≠ .eventArticles := by
    rw [h.kind]
    cases q.subject <;> decide
  have hparams : (Section.listing l).params =
      .ok ((l.pageParams l.orderParams l.page).update s.returnInfo) := by
    simp only [Section.params, Section.ownParams, Section.extra, l.ownParams_eq, if_neg hkind,
      h.further, bind, Except.bind]
  rw [Query.body_listing, Query.stated, htext, hparams]
  rfl

/-- An object has texts as keys. -/
theorem hasTextKeys_of_object {value : Data} {entries : Record} {key : String}
    (h : object value key = .ok entries) : value = .map entries ∧ entries.HasTextKeys := by
  unfold object at h
  split at h
  · split at h
    · next htexts =>
      cases h
      refine ⟨rfl, fun e he => ?_⟩
      have htext := List.all_eq_true.mp htexts e he
      obtain ⟨k, v⟩ := e
      cases k with
      | text name => exact ⟨name, rfl⟩
      | _ => cases htext
    · cases h
  · cases h

/-- The further parameters of configured searches have texts as keys, each of them once.  They are
    missing, or they stand in the configuration, where all keys are different. -/
theorem returnInfo_of_read {environment : Environment} {raw : Record} {settings : Settings}
    (h : Settings.read environment raw = .ok settings) (honce : Data.KeysOnce (.map raw)) :
    settings.search.returnInfo.KeysOnce ∧ settings.search.returnInfo.HasTextKeys := by
  obtain ⟨-, entries, hentries, hinfo⟩ := parts_of_readSearch (readSearch_of_read h)
  -- the parameters are missing, or they are an object in the configuration
  rcases hinfo with hnone | hobject
  · rw [hnone]
    exact ⟨List.Pairwise.nil, List.forall_mem_nil _⟩
  · have hsearch := Data.keysOnce_getD honce "search"
    rw [getD_of_objectAt hentries] at hsearch
    have hunder := Data.keysOnce_getD hsearch "return_info"
    obtain ⟨heq, htexts⟩ := hasTextKeys_of_object hobject
    rw [heq] at hunder
    cases hunder with
    | map once _ => exact ⟨once, htexts⟩

/-- The key is set in the body that is posted, and goes with it again. -/
theorem postTo_without (client : Client Float) (path : String) (body : Record) :
    (client.postTo path body).body.without "apiKey" = body.without "apiKey" := by
  unfold Client.postTo
  split
  · exact Record.without_set
  · rfl

/-- The client of the settings. -/
theorem posts_of_client {s : ServiceSettings} {client : Client Float} (h : s.client = .ok client) :
    client.Posts := by
  unfold ServiceSettings.client at h
  split at h
  · cases h
  · exact Client.posts_of_make h

/-! ## Both commands -/

/-- What is shown of a configured search and what is posted for its page 1: both bodies, and how
    they relate when the key is left out of what is posted. -/
structure ShownAndPosted (s : SearchSettings) (client : Client Float) (n : NamedSearch)
    (shown : Record) (post : Post) : Prop where
  shows : ShowsBody n shown
  path : post.url = client.host ++ n.search.subject.path
  posts : PostsFirst client s.collectOptions n post
  /-- They differ in nothing but the count, the order and the further parameters. -/
  same : ∀ name, s.returnInfo.get? name = none →
    name ∉ settingEnds.map (n.search.subject.listingKind.sectionType ++ ·) →
      shown.get? name = (post.body.without "apiKey").get? name
  /-- They are the same when the settings ask as usual. -/
  agree : shown.SameEntries (post.body.without "apiKey") ↔ AsksAsUsual s n.search.subject shown

/-- Both bodies of a configured search with short integers exist, and they relate as they should. -/
theorem exists_shownAndPosted {environment : Environment} {raw : Record} {settings : Settings}
    (h : Settings.read environment raw = .ok settings) (honce : Data.KeysOnce (.map raw))
    {client : Client Float} (hclient : settings.service.client = .ok client) {n : NamedSearch}
    (hn : n ∈ settings.search.searches) (hshort : n.search.HasShortIntegers) :
    ∃ shown post, ShownAndPosted settings.search client n shown post := by
  have hdescribed := described_of_read h honce n hn
  obtain ⟨text, htext⟩ := hdescribed.regular.sendable.documentText_eq_ok_iff.mpr hshort
  obtain ⟨p, hp, hlimit, hquery, hlisting⟩ := exists_pager (accepted_of_read h) n
  obtain ⟨hinfo, htexts⟩ := returnInfo_of_read h honce
  -- both bodies are made from the same text of the query
  have hbody : (p.request 0).1.body [(p.request 0).2] =
      .ok (listingBody (p.listing.afterPages 0) text settings.search.returnInfo) := by
    rw [Pager.request, hquery]
    exact hlisting.body htext
  refine ⟨usualBody n.search.subject text, client.postTo p.query.path
    (listingBody (p.listing.afterPages 0) text settings.search.returnInfo),
    showsBody hdescribed htext, ?_, ?_, ?_, ?_⟩
  · rw [hquery]
    rfl
  · intro ω net fuel s
    exact n.collect_posts (posts_of_client hclient) net hp hlimit hbody fuel s
  · -- under every other name, where the key is missing on both sides
    intro name hfurther hends
    rw [postTo_without, Record.get?_without]
    split
    · next hkey =>
      rw [← hkey]
      exact get?_usualBody_key text
    · exact hlisting.same text hinfo hfurther hends
  · rw [postTo_without]
    exact hlisting.sameEntries_iff text hinfo htexts

/-- What is printed when compiling completes is the list of the requests that are shown. -/
theorem printed_of_compile {ω : Type} (i : Invocation ω) (journal : OpenJournal)
    {settings : Settings} (hcode : (compile i settings journal).code = 0) :
    ∃ requests text, settings.search.searches.mapM compiledRequest = .ok requests ∧
      Json.write Json.file (.list requests) = .ok text ∧
      (compile i settings journal).output =
        consoleText settings journal.openingNotes ++ (text ++ "\n") := by
  -- a fault would end the command with another code
  cases htext : compiledText settings.search.searches with
  | error fault =>
    rw [compile, htext] at hcode
    cases hcode
  | ok text =>
    have houtput : (compile i settings journal).output =
        consoleText settings journal.openingNotes ++ (text ++ "\n") := by
      rw [compile, htext]
      simp only [List.append_nil]
    simp only [compiledText, bind_eq_ok_iff, mapError_eq_ok_iff] at htext
    obtain ⟨requests, hrequests, written, hwrite, hencoded⟩ := htext
    split at hencoded
    · cases hencoded
    · cases hencoded
      exact ⟨requests, text, hrequests, hwrite, houtput⟩

/-- The client that is set up is that of the settings. -/
theorem client_of_searchSetup {settings : Settings} {stamp : Calendar.Moment}
    {client : Client Float} {plan : SearchPlan}
    (h : searchSetup settings stamp = .ok (client, plan)) :
    settings.service.client = .ok client := by
  simp only [searchSetup, bind_eq_ok_iff] at h
  obtain ⟨client', hclient, formats, -, heq⟩ := h
  cases heq
  exact hclient

/-- A search with a long integer is not shown, and nothing is posted for it: its query has no text,
    which ends both ways at the same step. -/
theorem unshown_and_unposted {settings : Settings} (h : settings.Accepted) (client : Client Float)
    {n : NamedSearch} (hn : n ∈ settings.search.searches) (hlong : ¬ n.search.HasShortIntegers) :
    (∀ request, compiledRequest n ≠ .ok request) ∧
      PostsNothing client settings.search.collectOptions n := by
  have htexts := (h.searches n hn).documentText_eq_ok_iff
  cases hwritten : Json.write Json.wire (.map n.search.document) with
  | ok text =>
    have htext : n.search.documentText = .ok text := mapError_eq_ok_iff.mpr hwritten
    exact absurd (htexts.mp ⟨text, htext⟩) hlong
  | error fault =>
    have htext : n.search.documentText = .error (.type (.json fault)) := by
      rw [Search.documentText, hwritten]
      rfl
    constructor
    · -- compiling writes the text of the query first
      intro request hrequest
      rw [compiledRequest_of_error htext] at hrequest
      cases hrequest
    · -- so does a pass, before anything is sent
      intro ω net fuel s
      obtain ⟨p, hp, -, hquery, -⟩ := exists_pager h n
      have hbody : (p.request 0).1.body [(p.request 0).2] = .error (.type (.json fault)) := by
        rw [Pager.request, hquery, Query.body_listing, Query.stated, htext]
        rfl
      exact n.collect_unposted net hp hbody fuel s

/-- **What is shown and what is posted.**  Compiling prints the requests of all searches as JSON.  A
    search with short integers is among them with a payload.  With its query encoded as text again
    the payload is the body that running the searches posts first for the search, for page 1 and
    without the key, but for the count, the order and the further parameters; and these agree as
    well exactly when the settings ask for the usual ones.  A search with a long integer is neither
    shown nor posted. -/
theorem shown_and_posted {environment : Environment} {raw : Record} {settings : Settings}
    (h : Settings.read environment raw = .ok settings) (honce : Data.KeysOnce (.map raw))
    (hkey : settings.service.apiKey ≠ "") (stamp : Calendar.Moment) :
    (∀ {ω : Type} (i : Invocation ω) (journal : OpenJournal),
      (compile i settings journal).code = 0 → ∃ requests text,
        settings.search.searches.mapM compiledRequest = .ok requests ∧
        Json.write Json.file (.list requests) = .ok text ∧
        (compile i settings journal).output =
          consoleText settings journal.openingNotes ++ (text ++ "\n")) ∧
    ∃ client plan, searchSetup settings stamp = .ok (client, plan) ∧
      plan.searches = settings.search.searches ∧ plan.options = settings.search.collectOptions ∧
      ∀ n ∈ plan.searches,
        (n.search.HasShortIntegers →
          ∃ shown post, ShownAndPosted settings.search client n shown post) ∧
        (¬ n.search.HasShortIntegers →
          (∀ request, compiledRequest n ≠ .ok request) ∧ PostsNothing client plan.options n) := by
  constructor
  · intro ω i journal hcode
    exact printed_of_compile i journal hcode
  · have haccepted := accepted_of_read h
    obtain ⟨client, plan, hsetup, hsearches, hoptions⟩ := exists_searchSetup haccepted hkey stamp
    refine ⟨client, plan, hsetup, hsearches, hoptions, ?_⟩
    intro n hn
    rw [hsearches] at hn
    rw [hoptions]
    constructor
    · intro hshort
      exact exists_shownAndPosted h honce (client_of_searchSetup hsetup) hn hshort
    · intro hlong
      exact unshown_and_unposted haccepted client hn hlong

/-! ## Usual and other settings -/

/-- A configuration with two searches that asks for the usual listing, which is in order of the
    date. -/
def usualRaw : Record :=
  (rawWith weeklyQueries).set "search" (.map [
    (.text "max_items", .int (-1)),
    (.text "batch_size", .int 100),
    (.text "sort_by", .text "date")])

/-- The integers in accepted searches are short when their queries are found to have texts. -/
theorem hasShortIntegers_of_isSome {settings : Settings} (h : settings.Accepted)
    (htexts : (settings.search.searches.all fun n => n.search.documentText.toOption.isSome) =
      true) :
    ∀ n ∈ settings.search.searches, n.search.HasShortIntegers := by
  intro n hn
  have hsome := List.all_eq_true.mp htexts n hn
  exact (h.searches n hn).documentText_eq_ok_iff.mp (ok_of_isSome hsome)

/-- What is shown of both searches is what is posted. -/
theorem shown_and_posted_usual :
    Data.KeysOnce (.map usualRaw) ∧
    ∃ settings, Settings.read keyEnvironment usualRaw = .ok settings ∧
      settings.service.apiKey ≠ "" ∧ settings.search.searches.length = 2 ∧
      ∃ client plan, searchSetup settings someNoon = .ok (client, plan) ∧
        plan.searches = settings.search.searches ∧
        ∀ n ∈ plan.searches, ∃ shown post, ShownAndPosted settings.search client n shown post ∧
          shown.SameEntries (post.body.without "apiKey") := by
  have honce : Data.KeysOnce (.map usualRaw) := by decide +kernel
  have hread : ((Settings.read keyEnvironment usualRaw).toOption.map fun s =>
      ((s.service.apiKey, s.search.batchSize, s.search.ascending, s.search.sortBy),
        (s.search.returnInfo.isEmpty, s.search.searches.length),
        s.search.searches.all fun n => n.search.documentText.toOption.isSome)) =
        some (("secret", 100, false, some "date"), (true, 2), true) := by decide +kernel
  obtain ⟨settings, hsettings, hfound⟩ := ok_of_toOption_map hread
  simp only [Prod.mk.injEq] at hfound
  obtain ⟨⟨hsecret, hbatch, hascending, hsort⟩, ⟨hempty, htwo⟩, htexts⟩ := hfound
  have hkey : settings.service.apiKey ≠ "" := by
    rw [hsecret]
    decide
  -- without further parameters only the count and the order are left, and these are the usual ones
  have hnothing : settings.search.returnInfo = [] := by simpa using hempty
  have hshort := hasShortIntegers_of_isSome (accepted_of_read hsettings) htexts
  obtain ⟨-, client, plan, hsetup, hsearches, -, hboth⟩ :=
    shown_and_posted hsettings honce hkey someNoon
  refine ⟨honce, settings, hsettings, hkey, htwo, client, plan, hsetup, hsearches, ?_⟩
  intro n hn
  have hmem : n ∈ settings.search.searches := by
    rw [← hsearches]
    exact hn
  obtain ⟨shown, post, hall⟩ := (hboth n hn).1 (hshort n hmem)
  refine ⟨shown, post, hall, hall.agree.mpr ?_⟩
  have hcount : (100 : Int) = n.search.subject.listingKind.defaultCount := by
    cases n.search.subject <;> rfl
  have hdate : "date" = n.search.subject.listingKind.defaultSort := by
    cases n.search.subject <;> rfl
  constructor
  · intro name v hv
    rw [hnothing] at hv
    cases hv
  · intro _
    rw [hbatch, hcount]
  · intro _
    exact hascending
  · intro _
    rw [hsort, hdate]

/-- With a batch size of 500 both searches are shown, and each with another body than is posted. -/
theorem exists_shown_otherwise :
    Data.KeysOnce (.map (rawWith weeklyQueries)) ∧
    ∃ settings client, Settings.read keyEnvironment (rawWith weeklyQueries) = .ok settings ∧
      settings.service.client = .ok client ∧ settings.search.searches.length = 2 ∧
      (∃ text, compiledText settings.search.searches = .ok text) ∧
      ∀ n ∈ settings.search.searches, ∃ shown post, ShowsBody n shown ∧
        PostsFirst client settings.search.collectOptions n post ∧
        ¬ shown.SameEntries (post.body.without "apiKey") := by
  have honce : Data.KeysOnce (.map (rawWith weeklyQueries)) := keysOnce_rawWith (by decide)
  have hread : ((Settings.read keyEnvironment (rawWith weeklyQueries)).toOption.map fun s =>
      ((s.service.apiKey, s.search.batchSize),
        ["articlesCount", "eventsCount"].all (fun name => (s.search.returnInfo.get? name).isNone),
        s.search.searches.length,
        s.search.searches.all fun n => n.search.documentText.toOption.isSome)) =
        some (("secret", 500), true, 2, true) := by decide +kernel
  obtain ⟨settings, hsettings, hfound⟩ := ok_of_toOption_map hread
  simp only [Prod.mk.injEq] at hfound
  obtain ⟨⟨hsecret, hbatch⟩, hcounts, htwo, htexts⟩ := hfound
  have hkey : settings.service.apiKey ≠ "" := by
    rw [hsecret]
    decide
  have haccepted := accepted_of_read hsettings
  have hshort := hasShortIntegers_of_isSome haccepted htexts
  obtain ⟨client, hclient⟩ := haccepted.client hkey
  have htext := (compiledText_eq_ok_iff (described_of_read hsettings honce)
    (isWhole_of_read hsettings hasWholeTexts_weekly)).mpr ⟨hshort, rfl⟩
  refine ⟨honce, settings, client, hsettings, hclient, htwo, ⟨_, htext⟩, ?_⟩
  intro n hn
  obtain ⟨shown, post, hall⟩ := exists_shownAndPosted hsettings honce hclient hn (hshort n hn)
  refine ⟨shown, post, hall.shows, hall.posts, fun hsame => ?_⟩
  -- the further parameters have no count, so that the batch size would have to be the usual one
  have hnone : settings.search.returnInfo.get?
      (n.search.subject.listingKind.sectionType ++ "Count") = none := by
    have hname : n.search.subject.listingKind.sectionType ++ "Count" ∈
        ["articlesCount", "eventsCount"] := by
      cases n.search.subject <;> decide
    exact Option.isNone_iff_eq_none.mp (List.all_eq_true.mp hcounts _ hname)
  have hcount := (hall.agree.mp hsame).count hnone
  have husual : n.search.subject.listingKind.defaultCount = 100 := by
    cases n.search.subject <;> rfl
  omega

end NewsSearch.Command
