import NewsSearch.Proofs.Config.DescribedSearches

/-!
Entries that ask for everything.

An entry without a document must have a field, and what is checked is that it has a key for one.
Under the key there may stand nothing, a blank text or an empty list, and then the search has no
condition for it; a modifier or a filter is a key, too.  So the query of an accepted entry can be
the empty object, which everything matches (`exists_unrestricted_entry`).

What decides is whether something is given for a field, and this can be seen from the entry itself.

1. Every tree is written as an object with an entry, so that the query is empty only when the search
   has no tree (`Node.document_ne_nil`, `Search.query_eq_nil_iff`).
2. A search from parameters has no tree exactly when nothing is given for any field on either side
   (`Search.root_eq_none_iff`).
3. Fields are looked up under the names that they have in the entry (`lookup_fieldParams`, by
   induction on its entries), and reading what stands under a name does not change whether anything
   is given (`isPopulated_fieldArgument`).

Main statement: `query_ne_nil_iff_populated`.
-/

namespace NewsSearch

/-! ## Documents are never empty

Setting a key never empties a mapping, and every tree sets one. -/

/-- A mapping in which a key was set has an entry. -/
theorem Record.insert_ne_nil (key : Scalar) (value : Data) (r : Record) :
    r.insert key value ≠ [] := by
  cases r with
  | nil => exact List.cons_ne_nil _ _
  | cons e rest =>
    rw [Record.insert]
    split <;> exact List.cons_ne_nil _ _

/-- A condition is written as an object with its field. -/
theorem Condition.document_ne_nil (c : Condition) : c.document ≠ [] := by
  have hset : ∀ (modifiers : List (String × Data)) (r : Record), r ≠ [] →
      modifiers.foldl (fun r m => r.set m.1 m.2) r ≠ [] := by
    intro modifiers
    induction modifiers with
    | nil => exact fun r hr => hr
    | cons m rest ih => exact fun r _ => ih _ (Record.insert_ne_nil _ _ r)
  exact hset c.modifiers _ (List.cons_ne_nil _ _)

/-- Every tree is written as an object with an entry; a combination of one part is written as that
    part. -/
theorem Node.document_ne_nil : ∀ n : Node, n.document ≠ []
  | .condition c => c.document_ne_nil
  | .not _ => List.cons_ne_nil _ _
  | .all [child] => by
    rw [document_all_singleton]
    exact child.document_ne_nil
  | .any [child] => by
    rw [document_any_singleton]
    exact child.document_ne_nil
  | .all [] | .any [] | .all (_ :: _ :: _) | .any (_ :: _ :: _) => List.cons_ne_nil _ _

/-- The query of a search is empty only when the search has no tree. -/
theorem Search.query_eq_nil_iff (s : Search) :
    ∃ query : Record, s.document.get? queryKey = some (.map query) ∧
      (query = [] ↔ s.root = none) := by
  refine ⟨_, ParsedDocument.get?_compiled_query s.root s.filters.document, ?_⟩
  cases s.root with
  | none => exact iff_of_true rfl rfl
  | some n => exact iff_of_false n.document_ne_nil nofun

/-- A search from parameters has a tree exactly when something is given for a field. -/
theorem Search.root_eq_none_iff {subject : Subject} {params : Params} {s : Search}
    (h : Search.ofAllParams subject params = .ok s) :
    s.root = none ↔ ∀ side : Flat.Side, ∀ f ∈ Field.vocabulary,
      (side.given params f).isPopulated = false := by
  have hname (side : Flat.Side) : ∀ f ∈ Field.vocabulary, side.name f.param ≠ offerParam := by
    cases side <;> decide
  rw [Flat.compile_eq_none_iff (Search.ofParams_root h)]
  refine forall_congr' fun side => forall₂_congr fun f hf => ?_
  -- neither filters nor the section that is asked for matter to a field
  rw [Flat.given_withoutFilters side hf, Flat.Side.given, Flat.getD_filter, Flat.Side.given]
  intro a
  simpa using hname side f hf

namespace Config

variable {key : String}

/-! ## Fields of an entry

What is read for a field is compared with what stands there. -/

/-- What is read for a field is given exactly when something is given under its name. -/
theorem isPopulated_fieldArgument {d : Data} {a : Argument}
    (h : fieldArgument (.data d) key = .ok a) :
    a.isPopulated = (Argument.data d).isPopulated := by
  cases d with
  | scalar s => rw [single_eq h]
  | list items =>
    obtain ⟨as, has, rfl⟩ := map_eq_ok_iff.mp h
    rw [singlesFrom_eq has]
    cases items <;> rfl
  | tuple items => cases h
  | map entries =>
    -- an object combines values, and a combination is always something
    obtain ⟨word, items, mode, -, -, hwrapped⟩ := values_of_combined h
    rw [hwrapped]
    rfl

/-- A field has the name under which it stands in the entry: either there is nothing under the name
    on both sides, or what is looked up is read from what stands there. -/
theorem lookup_fieldParams {entries : Record} {params : Params}
    (h : fieldParams key (entries.map fun (k, v) => (k, .data v)) = .ok params) {name : String}
    (hname : reservedKeys.contains name = false) :
    (entries.get? name = none ∧ params.lookup name = none) ∨
      ∃ d a place, entries.get? name = some d ∧ params.lookup name = some a ∧
        fieldArgument (.data d) place = .ok a := by
  induction entries generalizing params with
  | nil =>
    cases h
    exact Or.inl ⟨rfl, rfl⟩
  | cons e rest ih =>
    obtain ⟨k, v⟩ := e
    cases k with
    | text other =>
      have hget : Record.get? name ((.text other, v) :: rest) =
          if other = name then some v else Record.get? name rest := by
        simp [Record.get?, Record.find?]
      rw [List.map_cons, fieldParams] at h
      rw [hget]
      split at h
      · next hreserved =>
        have hne : other ≠ name := by
          rintro rfl
          rw [hname] at hreserved
          cases hreserved
        rw [if_neg hne]
        exact ih h
      · simp only [bind_eq_ok_iff] at h
        obtain ⟨a, ha, others, hothers, heq⟩ := h
        cases heq
        by_cases heq : other = name
        · subst heq
          rw [if_pos rfl]
          exact Or.inr ⟨v, a, _, rfl, List.lookup_cons_self, ha⟩
        · have hbeq : (name == other) = false := by simpa using Ne.symm heq
          rw [if_neg heq, List.lookup_cons, hbeq]
          exact ih hothers
    | _ => cases h

/-- Whether anything is given for a field shows in the entry. -/
theorem isPopulated_fieldParams {entries : Record} {params : Params}
    (h : fieldParams key (entries.map fun (k, v) => (k, .data v)) = .ok params) {name : String}
    (hname : reservedKeys.contains name = false) :
    (params.getD name).isPopulated = (Argument.data (entries.getD name)).isPopulated := by
  rw [Params.getD, Record.getD]
  rcases lookup_fieldParams h hname with ⟨hnone, hlookup⟩ | ⟨d, a, place, hsome, hlookup, hfield⟩
  · rw [hnone, hlookup]
    rfl
  · rw [hsome, hlookup]
    exact isPopulated_fieldArgument hfield

/-! ## Entries

From here on an entry that was accepted. -/

/-- **When the query of an entry asks for something.**  An accepted entry without a document has a
    key that is not reserved, and its query is more than the empty object exactly when something is
    given for a field, on one side or the other: not nothing, a blank text or an empty list. -/
theorem query_ne_nil_iff_populated {entries : Record} {n : NamedSearch}
    (h : readEntry (.data (.map entries)) key = .ok n) (hflat : entries.getD documentKey = .null) :
    ∃ query : Record, n.search.document.get? queryKey = some (.map query) ∧
      (query ≠ [] ↔ ∃ side : Flat.Side, ∃ f ∈ Field.vocabulary,
        (Argument.data (entries.getD (side.name f.param))).isPopulated = true) ∧
      ∃ e ∈ entries, ∃ name, e.1 = .text name ∧ name ∉ reservedKeys := by
  obtain ⟨_, heq, -, subject, params, hparams, ⟨hsome, hsearch⟩ | ⟨hdocument, -⟩⟩ :=
    search_of_readEntry h
  · cases heq
    have hname (side : Flat.Side) : ∀ f ∈ Field.vocabulary,
        reservedKeys.contains (side.name f.param) = false := by
      cases side <;> decide
    have hnone : n.search.root = none ↔ ∀ side : Flat.Side, ∀ f ∈ Field.vocabulary,
        (Argument.data (entries.getD (side.name f.param))).isPopulated = false := by
      rw [Search.root_eq_none_iff hsearch]
      refine forall_congr' fun side => forall₂_congr fun f hf => ?_
      rw [Flat.Side.given, isPopulated_fieldParams hparams (hname side f hf)]
    obtain ⟨query, hquery, hempty⟩ := n.search.query_eq_nil_iff
    refine ⟨query, hquery, ?_, ?_⟩
    · rw [ne_eq, hempty, hnone]
      push Not
      simp only [Bool.not_eq_false]
    · obtain ⟨p, hp⟩ := List.exists_mem_of_ne_nil params hsome
      obtain ⟨e, he, hkey, hreserved, -⟩ := entry_of_fieldParams hparams p hp
      exact ⟨e, he, p.1, hkey, hreserved⟩
  · cases heq
    exact absurd hflat hdocument

/-- Something to leave out is enough. -/
theorem query_ne_nil_ignored_source :
    ∃ n query, readEntry (.data (.map [(.text "NAME", .text "rest"), (.text "keywords", .null),
        (.text "ignore_source_uri", .text "ads.example")])) "queries[0]" = .ok n ∧
      n.search.document.get? queryKey = some (.map query) ∧ query ≠ [] := by
  obtain ⟨n, hn⟩ : ∃ n, readEntry (.data (.map [(.text "NAME", .text "rest"),
      (.text "keywords", .null), (.text "ignore_source_uri", .text "ads.example")]))
        "queries[0]" = .ok n := ok_of_isSome (by decide +kernel)
  obtain ⟨query, hquery, hne, -⟩ := query_ne_nil_iff_populated hn rfl
  refine ⟨n, query, hn, hquery, hne.mpr ⟨.ignored, .several "sourceUri" "source_uri" .uri, ?_, ?_⟩⟩
  · decide
  · decide +kernel

/-- A key for the keywords without keywords is accepted, and nothing is asked for: the check counts
    the keys, not what stands under them. -/
theorem exists_unrestricted_entry :
    ∃ n, readEntry (.data (.map [(.text "keywords", .null)])) "queries[0]" = .ok n ∧
      n.search.document.get? queryKey = some (.map []) := by
  have hfound : (readEntry (.data (.map [(.text "keywords", .null)])) "queries[0]").toOption.map
      (fun n => n.search.root.isNone) = some true := by decide +kernel
  obtain ⟨n, hn, hroot⟩ := ok_of_toOption_map hfound
  obtain ⟨query, hquery, hempty⟩ := n.search.query_eq_nil_iff
  rw [hempty.mpr (by simpa using hroot)] at hquery
  exact ⟨n, hn, hquery⟩

end Config

end NewsSearch
