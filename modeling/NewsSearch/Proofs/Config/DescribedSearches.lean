import NewsSearch.Proofs.Config.AcceptedSettings
import NewsSearch.Proofs.Query.GivenValues

/-!
What configured searches are.

A configured search is one that fields or a document describe.

1. The fields are the entries of a mapping under names that are not reserved
   (`entry_of_fieldParams`).  So none is given twice (`nodup_fieldParams`), and the search is
   regular and asks for the usual listing (`described_of_readEntry`, `described_of_read`).
2. What a field is given as are the values that stand under its name, alone, in a list, or in a list
   under a word that combines them (`gives_of_fieldArgument`).  So nothing but texts of the
   configuration gets into the search.
3. A document may stand there as an object, or as a text, and then it is JSON: an escape in it can
   stand for half a pair.  When the texts of the configuration are whole, and those in the JSON of
   such documents too (`HasWholeTexts`), those of the search are whole (`isWhole_of_readEntry`,
   `isWhole_of_read`).

Main statements: `described_of_read`, `isWhole_of_read`.
-/

namespace NewsSearch.Config

open Text

/-! ## Fields

Reading goes along the entries of the mapping, and so do these inductions. -/

section Fields

variable {key : String} {entries : Record} {params : Params}

/-- A field is given as what stands under its name, which is none of the reserved ones. -/
theorem entry_of_fieldParams
    (h : fieldParams key (entries.map fun (k, v) => (k, .data v)) = .ok params) :
    ∀ p ∈ params, ∃ e ∈ entries, e.1 = .text p.1 ∧ p.1 ∉ reservedKeys ∧
      ∃ place, fieldArgument (.data e.2) place = .ok p.2 := by
  induction entries generalizing params with
  | nil =>
    cases h
    exact fun p hp => absurd hp List.not_mem_nil
  | cons e rest ih =>
    obtain ⟨k, v⟩ := e
    -- whatever comes from the later entries has its place further on
    have hlater {others : Params}
        (hothers : fieldParams key (rest.map fun (k, v) => (k, .data v)) = .ok others) :
        ∀ p ∈ others, ∃ e ∈ (k, v) :: rest, e.1 = .text p.1 ∧ p.1 ∉ reservedKeys ∧
          ∃ place, fieldArgument (.data e.2) place = .ok p.2 := by
      intro p hp
      obtain ⟨e, he, hfield⟩ := ih hothers p hp
      exact ⟨e, List.mem_cons_of_mem _ he, hfield⟩
    cases k with
    | text name =>
      rw [List.map_cons, fieldParams] at h
      split at h
      · -- a reserved name, which is passed over
        exact hlater h
      · next hfield =>
        simp only [bind_eq_ok_iff] at h
        obtain ⟨a, ha, others, hothers, heq⟩ := h
        cases heq
        -- a field, which adds one parameter of its name
        have hname : name ∉ reservedKeys := by simpa using hfield
        exact List.forall_mem_cons.mpr
          ⟨⟨_, List.mem_cons_self, rfl, hname, _, ha⟩, hlater hothers⟩
    | _ => cases h

/-- No field is given twice, for there is no key twice.  A name that comes again later would be the
    text of two keys. -/
theorem nodup_fieldParams (honce : entries.KeysOnce)
    (h : fieldParams key (entries.map fun (k, v) => (k, .data v)) = .ok params) :
    (params.map (·.1)).Nodup := by
  induction entries generalizing params with
  | nil =>
    cases h
    exact List.nodup_nil
  | cons e rest ih =>
    obtain ⟨hfirst, hrest⟩ := List.pairwise_cons.mp honce
    obtain ⟨k, v⟩ := e
    cases k with
    | text name =>
      rw [List.map_cons, fieldParams] at h
      split at h
      · exact ih hrest h
      · simp only [bind_eq_ok_iff] at h
        obtain ⟨a, -, others, hothers, heq⟩ := h
        cases heq
        refine List.nodup_cons.mpr ⟨fun hmem => ?_, ih hrest hothers⟩
        -- the later parameter would come from an entry with the same key
        obtain ⟨p, hp, hname⟩ := List.mem_map.mp hmem
        obtain ⟨e, he, hkey, -⟩ := entry_of_fieldParams hothers p hp
        have hother := hfirst e he
        rw [hkey, hname, Scalar.same_text_iff.mpr rfl] at hother
        cases hother
    | _ => cases h

variable {K V : Scalar → Prop}

/-- What combines the values of a list wraps these values: a mapping with one word and a list, of
    which every item is a single value. -/
theorem values_of_combined {entries : List (Scalar × Argument)} {a : Argument}
    (h : combined entries key = .ok a) :
    ∃ word items mode, entries = [(.text word, items)] ∧ listItems? items = some a.values ∧
      a = .wrapped mode a.values := by
  unfold combined at h
  split at h
  · next word items =>
    split at h
    · cases h
    · split at h
      · cases h
      · cases h
      · next values _ hvalues =>
        obtain ⟨as, has, hwrap⟩ := bind_eq_ok_iff.mp h
        obtain rfl := singlesFrom_eq has
        -- the values are wrapped as they are, since a list of them is not a single value
        unfold Argument.wrap at hwrap
        split at hwrap
        · next heq => cases heq
        · split at hwrap
          · cases hwrap
          · cases hwrap
          · next heq =>
            cases heq
            cases hwrap
            exact ⟨word, items, _, rfl, hvalues, rfl⟩
  · cases h

/-- A field is given values that stand under its name, in whichever of the three forms. -/
theorem gives_of_fieldArgument {d : Data} (hd : d.Every K V) {a : Argument}
    (h : fieldArgument (.data d) key = .ok a) : a.Gives V := by
  -- the values are items of a list, each of them from the configuration
  have hitems {items : List Data} (heach : ∀ d ∈ items, d.Every K V)
      (ha : a.values = items.map .data) : a.Gives V := by
    intro s hs
    rw [ha] at hs
    obtain ⟨d, hd, heq⟩ := List.mem_map.mp hs
    cases heq
    exact Data.every_scalar_iff.mp (heach _ hd)
  cases d with
  | scalar s =>
    -- one value
    have hone : ∀ d ∈ [Data.scalar s], d.Every K V := List.forall_mem_singleton.mpr hd
    obtain rfl := single_eq h
    exact hitems hone rfl
  | list items =>
    -- a list of values
    obtain ⟨as, has, rfl⟩ := map_eq_ok_iff.mp h
    exact hitems (Data.every_list_iff.mp hd) (singlesFrom_eq has)
  | tuple items => cases h
  | map entries =>
    -- a word with a list of values under it
    obtain ⟨word, items, -, heq, hvalues, -⟩ := values_of_combined h
    obtain ⟨⟨k, v⟩, rfl, hentry⟩ := List.map_eq_singleton_iff.mp heq
    cases hentry
    cases v with
    | list items =>
      have hlist := (Data.every_map_iff.mp hd _ List.mem_cons_self).2
      exact hitems (Data.every_list_iff.mp hlist) (Option.some.inj hvalues).symm
    | _ => cases hvalues

end Fields

/-! ## Entries

An entry has a name, a type, and fields or a document. -/

/-- All texts of the configuration are whole, and so are all within documents that are given as
    texts. -/
structure HasWholeTexts (raw : Record) : Prop where
  texts : Data.IsWhole (.map raw)
  documents : ∀ values, raw.getD "queries" = .list values →
    ∀ entries : Record, .map entries ∈ values → ∀ s, entries.getD documentKey = .text s →
      ∀ d, Json.read s = .ok d → d.IsWhole

/-- The name of an entry is a text of the entry. -/
theorem isWhole_of_entryName {entries : Record} (hentries : Data.IsWhole (.map entries))
    {key : String} {name : Option String}
    (h : entryName (entries.map fun (k, v) => (k, .data v)) key = .ok name) :
    ∀ s ∈ name, IsWhole s := by
  rw [entryName, argumentAt?_data] at h
  cases hfound : entries.get? nameKey with
  | none =>
    rw [hfound] at h
    cases h
    exact fun s hs => absurd hs (Option.not_mem_none s)
  | some v =>
    rw [hfound] at h
    obtain ⟨t, ht, hname⟩ := bind_eq_ok_iff.mp h
    -- what stands under the name is a text; without its blanks it is still whole, and a blank one
    -- is no name
    have hv : v = .text t := by
      unfold entryText Config.text at ht
      simp only [] at ht
      split at ht
      · cases ht
        rfl
      · cases ht
    have hvalue := hentries.getD trivial nameKey
    rw [Record.getD, hfound, hv] at hvalue
    have hwhole : IsWhole t := Data.every_scalar_iff.mp hvalue
    simp only [Except.ok.injEq] at hname
    rw [← hname]
    split
    · exact fun s hs => absurd hs (Option.not_mem_none s)
    · rintro s ⟨⟩
      exact hwhole.strip

section Entries

variable {d : Data} {key : String} {n : NamedSearch}

/-- The search that an entry describes. -/
theorem described_of_readEntry (honce : d.KeysOnce) (h : readEntry (.data d) key = .ok n) :
    n.search.Described := by
  obtain ⟨entries, rfl, -, subject, params, hparams, ⟨-, hflat⟩ | ⟨-, hdocument⟩⟩ :=
    search_of_readEntry h
  · -- fields
    cases honce with
    | map once _ => exact Search.described_of_ofAllParams (nodup_fieldParams once hparams) hflat
  · -- a document
    exact Search.described_of_ofExplicit (Data.keysOnce_getD honce _) hdocument

/-- It has no texts but those of the entry and of its document. -/
theorem isWhole_of_readEntry (hd : d.IsWhole)
    (hdocument : ∀ entries : Record, d = .map entries → ∀ s, entries.getD documentKey = .text s →
      ∀ document, Json.read s = .ok document → document.IsWhole)
    (h : readEntry (.data d) key = .ok n) : n.IsWhole := by
  obtain ⟨entries, rfl, hname, subject, params, hparams, hsearch⟩ := search_of_readEntry h
  have hsends : ∀ root ∈ n.search.root, ∀ c ∈ root.conditions, c.SendsFrom Scalar.IsWhole := by
    rcases hsearch with ⟨-, hflat⟩ | ⟨-, hexplicit⟩
    · -- fields: each is given as what stands in an entry
      refine Search.sendsFrom_of_ofAllParams trivial (fun p hp => ?_) hflat
      obtain ⟨e, he, -, -, place, hfield⟩ := entry_of_fieldParams hparams p hp
      exact gives_of_fieldArgument (Data.every_map_iff.mp hd e he).2 hfield
    · -- a document: an object in the entry, or a text that is read as one
      exact Search.sendsFrom_of_ofExplicit (hd.getD trivial documentKey) trivial
        (fun s document hs hread => hdocument entries rfl s hs document hread) hexplicit
  exact ⟨isWhole_of_entryName hd hname, fun root hroot c hc => (hsends root hroot c hc).isWhole⟩

end Entries

/-! ## Configurations

All entries stand in one list. -/

section Configurations

variable {environment : Environment} {raw : Record} {settings : Settings}
  (h : Settings.read environment raw = .ok settings)
include h

/-- Every configured search is regular and asks for the usual listing. -/
theorem described_of_read (honce : Data.KeysOnce (.map raw)) :
    ∀ n ∈ settings.search.searches, n.search.Described := by
  intro n hn
  obtain ⟨values, hvalues, d, hd, key, hentry⟩ := entry_of_readSearch (readSearch_of_read h) n hn
  have hlist := Data.keysOnce_getD honce "queries"
  rw [hvalues] at hlist
  cases hlist with
  | list each => exact described_of_readEntry (each d hd) hentry

/-- When the texts of the configuration are whole, so are those of the searches. -/
theorem isWhole_of_read (hwhole : HasWholeTexts raw) :
    ∀ n ∈ settings.search.searches, n.IsWhole := by
  intro n hn
  obtain ⟨values, hvalues, d, hd, key, hentry⟩ := entry_of_readSearch (readSearch_of_read h) n hn
  have hlist := hwhole.texts.getD trivial "queries"
  rw [hvalues] at hlist
  refine isWhole_of_readEntry (Data.every_list_iff.mp hlist d hd) ?_ hentry
  rintro entries rfl
  exact hwhole.documents values hvalues entries hd

end Configurations

end NewsSearch.Config
