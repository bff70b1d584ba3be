import NewsSearch.Proofs.Config.AcceptedSettings
import NewsSearch.Proofs.Config.EntryRefusals

/-!
How reading a configuration can end in a refusal.

The program tells faults of the configuration, which it reports as a wrong use, from faults of its
own, which end it without a word to the user.  So every refusal in reading a configuration should be
one that is reported.  Two things are not: an integer beyond the largest double where a number is
expected (`TooLarge`), and a key that is no text in the document of a search, when it is asked for
its first character.

1. Each check of a single setting refuses with faults of settings only, and these are reported.  The
   lemmas are stated for any property that all faults of settings have, so that they can be used for
   being reported as well as for the ways in which a whole configuration ends.
2. Each section is a row of such checks.  In that of the service a number may be too large
   (`readService_refuses`), and in the list of searches an entry may have a gap
   (`readSearch_refuses`), where `readEntry_refuses` is the lemma on one entry.
3. A gap of an entry is reported as well, except for a key that is no text (`Gap.readingEnds`), and
   so reading the whole configuration ends in one of four ways (`readingEnds`).
4. The entries of the list are read in order once the settings of the journal and of the service
   have been.  The first entry that is refused decides, by induction on its place
   (`readEntries_error`), and unless it has one of the gaps the report starts with its path.

Main statement: `Settings.read_ends`.  That the exception is real is shown by a search with the key
1 in its document (`Settings.exists_unreported`).
-/

namespace NewsSearch.Config

open Command (isUsage)

/-! ## Single settings

The functions that read one setting look at one value and refuse it with a fault that has the path
in it.  Nothing else happens in them, so the proofs are their case splits. -/

/-- A refusal is reported as a wrong use. -/
abbrev Usage (fault : Fault) : Prop := isUsage fault = true

section Settings

-- the checks of single settings refuse with faults of settings and with no others
variable {P : Fault → Prop} (hP : ∀ f, P (.setting f))
variable (raw entries : Record) (value : Data) (name key : String)

include hP

/-- A section is refused when it is no object, or is missing although it is required. -/
theorem objectAt_refuses (isRequired : Bool) : RefusesOnly P (objectAt raw key isRequired) := by
  unfold objectAt
  split
  · split
    · exact .error (hP _)
    · exact .ok _
  · exact .ok _
  · exact .error (hP _)

/-- A setting that is required is refused when it is missing. -/
theorem required_refuses : RefusesOnly P (required entries name key) := by
  unfold required
  split
  · exact .ok _
  · exact .error (hP _)

/-- A text is refused when it is something else. -/
theorem text_refuses : RefusesOnly P (text value key) := by
  unfold text
  split
  · exact .ok _
  · exact .error (hP _)

/-- Nothing may stand in its place here. -/
theorem optionalText_refuses : RefusesOnly P (optionalText value key) := by
  unfold optionalText
  split
  · exact .ok _
  · exact .bind (text_refuses hP value key) fun _ _ => .ok _

/-- A truth value is refused when it is something else, be it a number. -/
theorem truthValue_refuses : RefusesOnly P (truthValue value key) := by
  unfold truthValue
  split
  · exact .ok _
  · exact .error (hP _)

/-- So is an integer; a truth value is not taken for one. -/
theorem integer_refuses : RefusesOnly P (integer value key) := by
  unfold integer
  split
  · exact .ok _
  · exact .error (hP _)

/-- An object is refused when it is something else, or when some key of it is no text. -/
theorem object_refuses : RefusesOnly P (object value key) := by
  unfold object
  split
  · split
    · exact .ok _
    · exact .error (hP _)
  · exact .error (hP _)

/-- Texts in a list are refused as one of them is. -/
theorem texts_refuses : RefusesOnly P (texts value key) := by
  have hfrom : ∀ (values : List Data) (i : Nat), RefusesOnly P (textsFrom key i values) := by
    intro values
    induction values with
    | nil => exact fun i => .ok _
    | cons d rest ih =>
      intro i
      exact .bind (text_refuses hP d _) fun _ _ => .bind (ih (i + 1)) fun _ _ => .ok _
  unfold texts
  split
  · exact hfrom _ 0
  · exact .error (hP _)

/-- A number is refused as such, unless it is an integer beyond the largest double. -/
theorem number_refuses (hlarge : ∀ n, value = .int n → Number.ofInt? n = none → P .overflow) :
    RefusesOnly P (number value key) := by
  unfold number
  split
  · exact .ok _
  · next n =>
    split
    · exact .ok _
    · next hbeyond => exact .error (hlarge n rfl hbeyond)
  · exact .error (hP _)

/-- A text that has to say something is refused when it is blank. -/
theorem notBlank_refuses (s : String) : RefusesOnly P (notBlank s key) := by
  unfold notBlank
  split
  · exact .error (hP _)
  · exact .ok _

/-- What is refused under a condition is refused with the given fault of a setting. -/
theorem refuseWhen_refuses (condition : Bool) (fault : SettingFault) :
    RefusesOnly P (refuseWhen condition fault) := by
  unfold refuseWhen
  split
  · exact .error (hP _)
  · exact .ok _

end Settings

/-- A key is refused when the environment has none. -/
theorem keyIn_refuses (environment : Environment) (name : String) :
    RefusesOnly Usage (keyIn environment name) := by
  unfold keyIn
  split
  · exact .error rfl
  · exact .ok _

/-! ## Sections

A section is read setting by setting, and refused as one of the settings is. -/

/-- The settings of the service that are numbers. -/
def numberNames : List String := ["min_delay_between_requests", "timeout"]

/-- A number among the settings of the service is an integer beyond the largest double. -/
def TooLarge (raw : Record) : Prop :=
  ∃ (entries : Record) (name : String) (n : Int), raw.getD "api" = .map entries ∧
    name ∈ numberNames ∧ entries.get? name = some (.int n) ∧ Number.ofInt? n = none

/-- So is a setting that is required. -/
theorem get?_of_required {entries : Record} {name key : String} {value : Data}
    (h : required entries name key = .ok value) : entries.get? name = some value := by
  unfold required at h
  split at h
  · next hvalue => cases h; exact hvalue
  · cases h

/-- The settings of the journal are refused with a report. -/
theorem readJournal_refuses (raw : Record) : RefusesOnly Usage (readJournal raw) := by
  have hP := isUsage_setting
  refine .bind (objectAt_refuses hP _ _ _) fun _ _ => ?_
  refine .bind (required_refuses hP _ _ _) fun _ _ => .bind (text_refuses hP _ _) fun _ _ => ?_
  refine .bind (required_refuses hP _ _ _) fun _ _ => ?_
  refine .bind (truthValue_refuses hP _ _) fun _ _ => ?_
  exact .bind (required_refuses hP _ _ _) fun _ _ => .bind (text_refuses hP _ _) fun _ _ => .ok _

/-- The settings of the service are refused with a report, or because one of two numbers is an
    integer beyond the largest double. -/
theorem readService_refuses (environment : Environment) (raw : Record) :
    RefusesOnly (fun fault => Usage fault ∨ fault = .overflow ∧ TooLarge raw)
      (readService environment raw) := by
  have hP : ∀ f, Usage (.setting f) ∨ Fault.setting f = .overflow ∧ TooLarge raw :=
    fun f => .inl (isUsage_setting f)
  -- such a number is found again in the configuration, under its name
  have hnumber : ∀ {entries : Record} {name key : String} {value : Data},
      objectAt raw "api" true = .ok entries → required entries name key = .ok value →
      name ∈ numberNames →
      RefusesOnly (fun fault => Usage fault ∨ fault = .overflow ∧ TooLarge raw)
        (number value key) := by
    intro entries name key value hentries hvalue hname
    refine number_refuses hP value key fun n hn hbeyond => ?_
    have hfound := get?_of_required hvalue
    rw [hn] at hfound
    exact .inr ⟨rfl, entries, name, n, getD_of_objectAt hentries, hname, hfound, hbeyond⟩
  refine .bind (objectAt_refuses hP _ _ _) fun entries hentries => ?_
  refine .bind (required_refuses hP _ _ _) fun _ _ => .bind (text_refuses hP _ _) fun _ _ => ?_
  refine .bind (required_refuses hP _ _ _) fun _ _ => .bind (text_refuses hP _ _) fun _ _ => ?_
  refine .bind (required_refuses hP _ _ _) fun minDelay hminDelay => ?_
  refine .bind (hnumber hentries hminDelay (by decide)) fun _ _ => ?_
  refine .bind (required_refuses hP _ _ _) fun _ _ => .bind (integer_refuses hP _ _) fun _ _ => ?_
  refine .bind (required_refuses hP _ _ _) fun timeout htimeout => ?_
  refine .bind (hnumber hentries htimeout (by decide)) fun _ _ => ?_
  refine .bind (truthValue_refuses hP _ _) fun _ _ => ?_
  exact .bind ((keyIn_refuses _ _).mono fun _ => Or.inl) fun _ _ => .ok _

/-- The path of an entry of the list of searches. -/
def entryKey (i : Nat) : String := s!"queries[{Number.natText i}]"

/-- Entries are refused as one of them is.  Which one is not said here; see `readEntries_error`. -/
theorem readEntries_refuses (values : List Data) (i : Nat) :
    RefusesOnly (fun fault => ∃ value ∈ values, Usage fault ∨ Gap value fault)
      (readEntries i values) := by
  induction values generalizing i with
  | nil => exact .ok _
  | cons value rest ih =>
    refine .bind ((readEntry_refuses value (entryKey i)).mono fun fault hfault => ?_) fun _ _ => ?_
    · exact ⟨value, List.mem_cons_self, hfault.imp_left Reported.usage⟩
    · refine .bind ((ih (i + 1)).mono fun fault => ?_) fun _ _ => .ok _
      rintro ⟨other, hmem, hfault⟩
      exact ⟨other, List.mem_cons_of_mem value hmem, hfault⟩

/-- The searches are refused with a report, or because one entry has a gap. -/
theorem readSearch_refuses (raw : Record) :
    RefusesOnly (fun fault => Usage fault ∨
        ∃ values, raw.getD "queries" = .list values ∧ ∃ value ∈ values, Gap value fault)
      (readSearch raw) := by
  unfold readSearch
  -- what is read behind the entries does not depend on them
  extract_lets behind
  have hbehind : ∀ searches, RefusesOnly Usage (behind searches) := by
    have hP := isUsage_setting
    intro searches
    refine .bind (objectAt_refuses hP _ _ _) fun entries _ => ?_
    refine .bind (required_refuses hP _ _ _) fun _ _ => ?_
    refine .bind (integer_refuses hP _ _) fun _ _ => ?_
    refine .bind (required_refuses hP _ _ _) fun _ _ => ?_
    refine .bind (integer_refuses hP _ _) fun _ _ => ?_
    refine .bind (optionalText_refuses hP _ _) fun _ _ => ?_
    refine .bind (truthValue_refuses hP _ _) fun _ _ => ?_
    simp only []
    split
    · exact .ok _
    · exact .bind (object_refuses hP _ _) fun _ _ => .ok _
  split
  · exact .error (.inl (isUsage_setting _))
  · next values hvalues =>
    refine .bind ((readEntries_refuses values 0).mono fun fault => ?_) fun searches _ =>
      (hbehind searches).mono fun _ => Or.inl
    rintro ⟨value, hmem, husage | hgap⟩
    · exact .inl husage
    · exact .inr ⟨values, hvalues, value, hmem, hgap⟩
  · exact .error (.inl (isUsage_setting _))

/-- The settings of the output are refused with a report. -/
theorem readOutput_refuses (raw : Record) : RefusesOnly Usage (readOutput raw) := by
  have hP := isUsage_setting
  refine .bind (objectAt_refuses hP _ _ _) fun _ _ => ?_
  refine .bind (required_refuses hP _ _ _) fun _ _ => .bind (texts_refuses hP _ _) fun _ _ => ?_
  exact .bind (required_refuses hP _ _ _) fun _ _ => .bind (text_refuses hP _ _) fun _ _ => .ok _

/-! ## Checks

The settings that have been read are checked once more, against each other.  The checks refuse with
faults of settings. -/

section Checks

variable {P : Fault → Prop} (hP : ∀ f, P (.setting f))

include hP

/-- The journal is checked for its level, and for its path when there is a file. -/
theorem journalCheck_refuses (s : JournalSettings) : RefusesOnly P s.check := by
  refine .bind (refuseWhen_refuses hP _ _) fun _ _ => ?_
  split
  · exact notBlank_refuses hP _ _
  · exact .ok _

/-- The service is checked for texts that are blank, for the scheme of its host, and for numbers
    that are out of range. -/
theorem serviceCheck_refuses (s : ServiceSettings) : RefusesOnly P s.check := by
  refine .bind (notBlank_refuses hP _ _) fun _ _ => .bind (notBlank_refuses hP _ _) fun _ _ => ?_
  refine .bind (refuseWhen_refuses hP _ _) fun _ _ => ?_
  refine .bind (refuseWhen_refuses hP _ _) fun _ _ => ?_
  exact .bind (refuseWhen_refuses hP _ _) fun _ _ => refuseWhen_refuses hP _ _

/-- The searches are checked for there being some, for two of one name, and for the numbers that
    they are run with. -/
theorem searchCheck_refuses (s : SearchSettings) : RefusesOnly P s.check := by
  refine .bind (refuseWhen_refuses hP _ _) fun _ _ => ?_
  refine .bind (refuseWhen_refuses hP _ _) fun _ _ => ?_
  exact .bind (refuseWhen_refuses hP _ _) fun _ _ => refuseWhen_refuses hP _ _

/-- The output is checked for its path and its formats. -/
theorem outputCheck_refuses (s : OutputSettings) : RefusesOnly P s.check := by
  refine .bind (notBlank_refuses hP _ _) fun _ _ => .bind (refuseWhen_refuses hP _ _) fun _ _ => ?_
  exact refuseWhen_refuses hP _ _

end Checks

/-! ## The whole configuration -/

/-- **How reading a configuration may end**: with settings, with a report, or with one of two faults
    that are no reports.  The last two say where in the configuration the cause is. -/
inductive ReadingEnds (raw : Record) : Except Fault Settings → Prop
  | accepted (settings : Settings) : ReadingEnds raw (.ok settings)
  /-- The refusal is reported as a wrong use. -/
  | reported {fault : Fault} (usage : isUsage fault = true) : ReadingEnds raw (.error fault)
  /-- A number of the service is an integer beyond the largest double. -/
  | overflow (large : TooLarge raw) : ReadingEnds raw (.error .overflow)
  /-- The document of some entry has a key that is no text. -/
  | oddKey {values : List Data} {entries document : Record} {typeName : String}
      (queries : raw.getD "queries" = .list values) (entry : .map entries ∈ values)
      (complex : entries.get? documentKey = some (.map document))
      (odd : OddKeyIn document (.noAttribute typeName "startswith")) :
      ReadingEnds raw (.error (.noAttribute typeName "startswith"))

/-- The entry at this place is the first one that is refused. -/
structure FirstRefused (values : List Data) (i : Nat) (value : Data) : Prop where
  at_place : values[i]? = some value
  before : ∀ j v, j < i → values[j]? = some v → ∃ n, readEntry (.data v) (entryKey j) = .ok n
  refused : ∀ n, readEntry (.data value) (entryKey i) ≠ .ok n

/-- A gap in an entry of the list is a wrong use or a key that is no text.  Integers of too many
    digits give a fault of a value or a type, which is reported, though without the path of the
    entry. -/
theorem Gap.readingEnds {raw : Record} {values : List Data} {value : Data} {fault : Fault}
    (hqueries : raw.getD "queries" = .list values) (hmem : value ∈ values) (h : Gap value fault) :
    ReadingEnds raw (.error fault) := by
  cases h with
  | oddKey object complex odd uncaught =>
    -- a key that is too long to be shown, one of bytes, or one that cannot be asked for a prefix
    rcases odd.fault_eq with rfl | rfl | ⟨typeName, rfl⟩
    · exact .reported rfl
    · exact .reported rfl
    · exact .oddKey hqueries (object ▸ hmem) complex odd
  | unquoted object complex unquoted => exact .reported rfl
  | integer object complex reads => exact .reported rfl

/-- Reading goes through the sections and then through their checks, and each of them ends in one of
    these ways. -/
theorem readingEnds (environment : Environment) (raw : Record) :
    ReadingEnds raw (Settings.read environment raw) := by
  have hrefuses : RefusesOnly (fun fault => ReadingEnds raw (.error fault))
      (Settings.read environment raw) := by
    refine .bind ((readJournal_refuses raw).mono fun _ => .reported) fun _ _ => ?_
    refine .bind ((readService_refuses environment raw).mono fun fault => ?_) fun _ _ => ?_
    · rintro (husage | ⟨rfl, hlarge⟩)
      · exact .reported husage
      · exact .overflow hlarge
    refine .bind ((readSearch_refuses raw).mono fun fault => ?_) fun _ _ => ?_
    · rintro (husage | ⟨values, hqueries, value, hmem, hgap⟩)
      · exact .reported husage
      · exact hgap.readingEnds hqueries hmem
    refine .bind ((readOutput_refuses raw).mono fun _ => .reported) fun _ _ => ?_
    have hP : ∀ f, ReadingEnds raw (.error (.setting f)) := fun f => .reported (isUsage_setting f)
    refine .bind (journalCheck_refuses hP _) fun _ _ => ?_
    refine .bind (serviceCheck_refuses hP _) fun _ _ => ?_
    refine .bind (searchCheck_refuses hP _) fun _ _ => ?_
    exact .bind (outputCheck_refuses hP _) fun _ _ => .ok _
  rcases hrefuses.cases with ⟨settings, hread⟩ | ⟨fault, hread, hends⟩
  · rw [hread]
    exact .accepted settings
  · rw [hread]
    exact hends

/-- **The first refusal decides.** The fault of the first entry that is refused is the fault of the
    list.  The induction is on the place of that entry; the entries before it are read and only
    count up. -/
theorem readEntries_error {values : List Data} {start i : Nat} {value : Data} {fault : Fault}
    (hplace : values[i]? = some value)
    (hbefore : ∀ j v, j < i → values[j]? = some v →
      ∃ n, readEntry (.data v) (entryKey (start + j)) = .ok n)
    (hrefused : readEntry (.data value) (entryKey (start + i)) = .error fault) :
    readEntries start values = .error fault := by
  induction i generalizing values start with
  | zero =>
    cases values with
    | nil => cases hplace
    | cons first rest =>
      cases hplace
      rw [Nat.add_zero] at hrefused
      rw [readEntries]
      show (readEntry _ (entryKey start) >>= _) = _
      rw [hrefused]
      rfl
  | succ i ih =>
    cases values with
    | nil => cases hplace
    | cons first rest =>
      obtain ⟨n, hn⟩ := hbefore 0 first (by omega) rfl
      rw [Nat.add_zero] at hn
      have hrest : readEntries (start + 1) rest = .error fault := by
        refine ih hplace (fun j v hj hv => ?_) ?_
        · have hnext := hbefore (j + 1) v (by omega) hv
          -- places in the rest of the list are counted from the next number on
          rwa [show start + (j + 1) = start + 1 + j by omega] at hnext
        · rwa [show start + (i + 1) = start + 1 + i by omega] at hrefused
      rw [readEntries]
      show (readEntry _ (entryKey start) >>= _) = _
      rw [hn, hrest]
      rfl

/-- **How reading ends.** Reading a configuration ends with settings, with a report, or in one of
    two gaps.  When the settings of the journal and of the service can be read and some entry of the
    list of searches cannot, the first such entry decides, and the report starts with its path
    unless the entry has a gap. -/
theorem Settings.read_ends (environment : Environment) (raw : Record) :
    ReadingEnds raw (Settings.read environment raw) ∧
      ∀ {journal service values i value}, readJournal raw = .ok journal →
        readService environment raw = .ok service → raw.getD "queries" = .list values →
        FirstRefused values i value →
        ∃ fault, Settings.read environment raw = .error fault ∧
          (Reported (entryKey i) fault ∨ Gap value fault) := by
  refine ⟨readingEnds environment raw, ?_⟩
  intro journal service values i value hjournal hservice hqueries hfirst
  cases hentry : readEntry (.data value) (entryKey i) with
  | ok n => exact absurd hentry (hfirst.refused n)
  | error fault =>
    have hlist : readEntries 0 values = .error fault :=
      readEntries_error hfirst.at_place (fun j v => by rw [Nat.zero_add]; exact hfirst.before j v)
        (by rw [Nat.zero_add]; exact hentry)
    have hsearch : readSearch raw = .error fault := by
      rw [readSearch, hqueries]
      show (readEntries 0 values >>= _) = _
      rw [hlist]
      rfl
    refine ⟨fault, ?_, readEntry_refuses value (entryKey i) fault hentry⟩
    rw [Settings.read, hjournal, hservice]
    show (readSearch raw >>= _) = _
    rw [hsearch]
    rfl

/-- A document with a field that there is not, behind a search that can be read. -/
def unknownFieldQueries : List Data := [
  .map [(.text "keywords", .text "solar")],
  .map [(.text "COMPLEX", .map [(.text "$query", .map [(.text "author", .text "x")])])]]

/-- It is reported under the path of its entry. -/
theorem Settings.read_ends_unknownField :
    ∃ journal service value, readJournal (rawWith unknownFieldQueries) = .ok journal ∧
      readService keyEnvironment (rawWith unknownFieldQueries) = .ok service ∧
      FirstRefused unknownFieldQueries 1 value ∧
      ∃ fault, Settings.read keyEnvironment (rawWith unknownFieldQueries) = .error fault ∧
        fault.message = "queries[1]: Unknown query field: $query.author" ∧
        (Reported (entryKey 1) fault ∨ Gap value fault) := by
  have hjournal : ((readJournal (rawWith unknownFieldQueries)).toOption.map fun _ => ()) =
      some () := by decide +kernel
  have hservice : ((readService keyEnvironment (rawWith unknownFieldQueries)).toOption.map
      fun _ => ()) = some () := by decide +kernel
  obtain ⟨journal, hjournal, -⟩ := ok_of_toOption_map hjournal
  obtain ⟨service, hservice, -⟩ := ok_of_toOption_map hservice
  have hfirst : FirstRefused unknownFieldQueries 1
      (.map [(.text "COMPLEX", .map [(.text "$query", .map [(.text "author", .text "x")])])]) := by
    refine ⟨rfl, fun j v hj hv => ?_, fun n hn => ?_⟩
    · obtain rfl : j = 0 := by omega
      cases hv
      have hfirst : ((readEntry (.data (.map [(.text "keywords", .text "solar")]))
          (entryKey 0)).toOption.map fun _ => ()) = some () := by decide +kernel
      obtain ⟨n, hn, -⟩ := ok_of_toOption_map hfirst
      exact ⟨n, hn⟩
    · have hrefused : (readEntry (.data (.map [(.text "COMPLEX", .map [(.text "$query",
          .map [(.text "author", .text "x")])])])) (entryKey 1)).toOption.isNone = true := by
        decide +kernel
      rw [hn] at hrefused
      cases hrefused
  obtain ⟨fault, hread, hends⟩ :=
    (Settings.read_ends keyEnvironment (rawWith unknownFieldQueries)).2 hjournal hservice rfl hfirst
  have hfault : Settings.read keyEnvironment (rawWith unknownFieldQueries) =
      .error (.setting (.query "queries[1]" "Unknown query field: $query.author")) := by rfl
  cases hread.symm.trans hfault
  exact ⟨journal, service, _, hjournal, hservice, hfirst, _, hread, by decide +kernel, hends⟩

/-- The document of a search has a number for a key, which is asked for its first character. -/
def numberKeyQueries : List Data := [
  .map [(.text "COMPLEX", .map [(.text "$query", .map [(.int 1, .text "x")])])]]

/-- So not every refusal is reported, nor does it start with the path of the entry. -/
theorem Settings.exists_unreported :
    ∃ environment raw fault, Settings.read environment raw = .error fault ∧
      isUsage fault = false ∧ fault.message.startsWith "queries[0]" = false := by
  refine ⟨keyEnvironment, rawWith numberKeyQueries, .noAttribute "int" "startswith", by rfl, rfl,
    by decide +kernel⟩

end NewsSearch.Config
