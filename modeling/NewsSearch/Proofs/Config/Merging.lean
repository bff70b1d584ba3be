import NewsSearch.Config.Merge
import NewsSearch.Proofs.Record

/-!
What results from laying one configuration over another.

A place in a configuration is told by the keys that lead to it (`Data.at?`), and a setting is a
value there that is no mapping (`Data.Sets`).  A setting of the layer hides everything that the base
has below it (`Data.Cuts`).  In these terms the result can be told without saying how it is
computed: its settings are those of the layer, and those of the base that stand where the layer has
nothing and has no setting above.

1. Under one key of the result stands the value of the layer laid on the value of the base, or the
   value of the base when the layer has none (`get?_merge`).  This is by induction on the entries of
   the layer.  A layer has each key once, so that no later entry touches what was set by an earlier
   one.
2. The keys of the result are those of the base in their order, and then the new ones of the layer
   (`keys_merge`), by the same induction.
3. What stands further down follows by induction on the keys that lead there, because a path leads
   into a mapping by its first key: step 1 says what is under it, and the rest of the path leads
   into that (`sets_mergeValue_iff`, `at?_mergeValue`).
4. That a layer can be laid again without a change is by induction on the layer instead
   (`mergeValue_mergeValue`): each of its values finds itself under its key already, and a layer
   whose values all do changes nothing (`merge_of_settled`).

Main statement: `merge_settings`.
-/

namespace NewsSearch

/-! ## Places

What is said here is about one configuration.  Every notion has one equation for a mapping and a
path with a first key, and one for a value that is no mapping; the proofs further down use only
these. -/

namespace Data

/-- What stands at the place to which the keys lead, one mapping further with each key. -/
def at? : List String → Data → Option Data
  | [], d => some d
  | key :: path, .map entries => (Record.get? key entries).bind (at? path)
  | _ :: _, _ => none

/-- The keys lead to this value, and it is no mapping. -/
def Sets (d : Data) (path : List String) (value : Data) : Prop :=
  d.at? path = some value ∧ value.entries? = none

/-- Some of the keys, but not all of them, lead to a value that is no mapping. -/
def Cuts (d : Data) (path : List String) : Prop :=
  ∃ above value, above <+: path ∧ above ≠ path ∧ d.Sets above value

/-- All mappings that are reached through mappings have texts for keys, and each key once.  A
    mapping that stands in a list is not reached, because no layer is laid on it. -/
inductive IsTree : Data → Prop
  | leaf {d : Data} (plain : d.entries? = none) : IsTree d
  | map {entries : Record} (once : entries.KeysOnce)
      (texts : ∀ e ∈ entries, ∃ name, e.1 = .text name) (each : ∀ e ∈ entries, e.2.IsTree) :
      IsTree (.map entries)

/-- No keys lead to the whole. -/
@[simp] theorem at?_nil (d : Data) : d.at? [] = some d := by rw [at?]

/-- Keys lead into a mapping by the first of them. -/
@[simp] theorem at?_map {key : String} {path : List String} {entries : Record} :
    (Data.map entries).at? (key :: path) = (Record.get? key entries).bind (at? path) := by rw [at?]

/-- No keys lead further from a value that is no mapping. -/
theorem at?_plain {d : Data} (h : d.entries? = none) (key : String) (path : List String) :
    d.at? (key :: path) = none := by
  cases d with
  | map entries => cases h
  | _ => rw [at?]; rintro _ ⟨⟩

/-- A value is a mapping or has no entries. -/
theorem map_or_plain (d : Data) : (∃ entries, d = .map entries) ∨ d.entries? = none := by
  cases d with
  | map entries => exact Or.inl ⟨entries, rfl⟩
  | _ => exact Or.inr rfl

variable {d v : Data} {key : String} {path : List String} {entries : Record}

/-- A mapping is not itself a setting. -/
@[simp] theorem not_sets_map_nil : ¬ (Data.map entries).Sets [] v := by
  rintro ⟨hat, hplain⟩
  obtain rfl := Option.some.inj (hat.symm.trans (at?_nil _))
  cases hplain

/-- A setting below the first key is one of the value under that key. -/
theorem sets_cons_iff :
    (Data.map entries).Sets (key :: path) v ↔
      ∃ d, Record.get? key entries = some d ∧ d.Sets path v := by
  simp only [Sets, at?_map, Option.bind_eq_some_iff]
  constructor
  · rintro ⟨⟨d, hget, hat⟩, hplain⟩
    exact ⟨d, hget, hat, hplain⟩
  · rintro ⟨d, hget, hat, hplain⟩
    exact ⟨⟨d, hget, hat⟩, hplain⟩

/-- Nothing is set below a setting. -/
theorem not_sets_plain (h : d.entries? = none) : ¬ d.Sets (key :: path) v := by
  rintro ⟨hat, -⟩
  rw [at?_plain h] at hat
  cases hat

/-- A value that is no mapping cuts off every path that leads further. -/
theorem cuts_plain (h : d.entries? = none) : d.Cuts (key :: path) :=
  ⟨[], d, List.nil_prefix, List.cons_ne_nil key path |>.symm, at?_nil d, h⟩

/-- A path into a mapping is cut off when the value under its first key cuts off the rest.  The
    mapping itself cuts off nothing, so that the value that does stands under the first key or
    further down. -/
theorem cuts_cons_iff :
    (Data.map entries).Cuts (key :: path) ↔
      ∃ d, Record.get? key entries = some d ∧ d.Cuts path := by
  constructor
  · rintro ⟨above, w, hprefix, hne, hsets⟩
    rcases List.prefix_cons_iff.mp hprefix with rfl | ⟨rest, rfl, hrest⟩
    · exact absurd hsets not_sets_map_nil
    · obtain ⟨d, hget, hd⟩ := sets_cons_iff.mp hsets
      have hproper : rest ≠ path := by
        rintro rfl
        exact hne rfl
      exact ⟨d, hget, rest, w, hrest, hproper, hd⟩
  · rintro ⟨d, hget, above, w, hprefix, hne, hsets⟩
    refine ⟨key :: above, w, List.cons_prefix_cons.mpr ⟨rfl, hprefix⟩, ?_,
      sets_cons_iff.mpr ⟨d, hget, hsets⟩⟩
    intro heq
    exact hne (List.cons.inj heq).2

/-- Below a tree stand trees, which is what an induction on a path needs. -/
theorem IsTree.of_get? (h : IsTree (.map entries)) (hget : Record.get? key entries = some v) :
    v.IsTree := by
  obtain ⟨e, he, rfl⟩ := Record.mem_of_find? hget
  cases h with
  | leaf plain => cases plain
  | map _ _ each => exact each e he

/-- Entries under different names make a tree when their values do. -/
theorem isTree_ofTexts {pairs : List (String × Data)} (hnames : (pairs.map (·.1)).Nodup)
    (hvalues : ∀ p ∈ pairs, p.2.IsTree) : IsTree (.map (Record.ofTexts pairs)) := by
  refine .map (Record.keysOnce_ofTexts hnames) ?_ ?_
  · intro e he
    obtain ⟨p, -, rfl⟩ := List.mem_map.mp he
    exact ⟨p.1, rfl⟩
  · intro e he
    obtain ⟨p, hp, rfl⟩ := List.mem_map.mp he
    exact hvalues p hp

/-- The entries of a tree, the first one apart: its key is a text, and the others are other
    texts. -/
theorem IsTree.cons {e : Scalar × Data} {rest : List (Scalar × Data)}
    (h : IsTree (.map (e :: rest))) :
    ∃ name, e.1 = .text name ∧ (∀ d ∈ rest, ∃ other, d.1 = .text other ∧ name ≠ other) ∧
      IsTree (.map rest) := by
  cases h with
  | leaf plain => cases plain
  | map once texts each =>
    obtain ⟨hfirst, honce⟩ := List.pairwise_cons.mp once
    obtain ⟨⟨name, hname⟩, htexts⟩ := List.forall_mem_cons.mp texts
    refine ⟨name, hname, ?_, .map honce htexts fun d hd => each d (List.mem_cons_of_mem e hd)⟩
    intro d hd
    obtain ⟨other, hother⟩ := htexts d hd
    refine ⟨other, hother, ?_⟩
    have hdiffer := hfirst d hd
    rw [hname, hother, Scalar.same_text, beq_eq_false_iff_ne] at hdiffer
    exact hdiffer

end Data

/-! ## One level -/

namespace Config

open Data

variable {base layer : Record}

/-- Laying a mapping on a value: a mapping takes its entries, any other value gives way, and so does
    nothing. -/
theorem mergeValue_map {old : Option Data} :
    (∃ entries, old = some (.map entries) ∧
      mergeValue old (.map layer) = .map (merge entries layer)) ∨
    ((∀ entries, old ≠ some (.map entries)) ∧ mergeValue old (.map layer) = .map layer) := by
  unfold mergeValue
  split
  · next entries => exact Or.inl ⟨entries, rfl, rfl⟩
  · next hother => exact Or.inr ⟨hother, rfl⟩

/-- A value that is no mapping replaces what was there. -/
theorem mergeValue_plain {old : Option Data} {value : Data} (h : value.entries? = none) :
    mergeValue old value = value := by
  cases value with
  | map entries => cases h
  | _ => rw [mergeValue]; rintro _ ⟨⟩

/-- The entries of a layer are laid one after the other. -/
theorem merge_cons {e : Scalar × Data} {rest : List (Scalar × Data)} :
    merge base (e :: rest) = merge (base.insert e.1 (mergeValue (base.find? e.1) e.2)) rest := by
  rw [merge, mergeEntries, merge]

/-- **What stands under a key after a layer was laid.**  By induction on the layer: its first entry
    is laid on what the base has there, and the others do not come back to that key. -/
theorem get?_merge (h : IsTree (.map layer)) (base : Record) (name : String) :
    (merge base layer).get? name =
      match layer.get? name with
      | some value => some (mergeValue (base.get? name) value)
      | none => base.get? name := by
  induction layer generalizing base with
  | nil => rw [merge_nil]; rfl
  | cons e rest ih =>
    obtain ⟨key, value⟩ := e
    obtain ⟨k, rfl, hothers, hrest⟩ := h.cons
    have hlayer : Record.get? name ((.text k, value) :: rest) =
        if k = name then some value else Record.get? name rest := by
      simp [Record.get?, Record.find?]
    rw [merge_cons, ih hrest, Record.get?_insert, hlayer]
    by_cases hname : k = name
    · subst hname
      have hnone : Record.get? k rest = none := by
        refine Record.get?_eq_none fun e he heq => ?_
        obtain ⟨other, hother, hne⟩ := hothers e he
        rw [hother] at heq
        exact hne (Scalar.text.inj heq).symm
      rw [hnone, if_pos rfl, if_pos rfl]
      rfl
    · rw [if_neg hname, if_neg hname]

/-- **The keys of the base come first, in their order, and then the new ones of the layer.**  A key
    that the base has keeps its place. -/
theorem keys_merge (h : IsTree (.map layer)) :
    (merge base layer).keys =
      base.keys ++ layer.keys.filter fun key => !base.contains key := by
  induction layer generalizing base with
  | nil => simp [merge_nil, Record.keys]
  | cons e rest ih =>
    obtain ⟨key, value⟩ := e
    obtain ⟨k, rfl, hothers, hrest⟩ := h.cons
    -- the key that is set first is no key of the rest, so that it does not matter for what is new
    have hnew : ∀ other ∈ Record.keys rest,
        (!(base.insert (.text k) (mergeValue (base.find? (.text k)) value)).contains other) =
          !base.contains other := by
      intro other hother
      obtain ⟨d, hd, rfl⟩ := List.mem_map.mp hother
      obtain ⟨name, hname, hne⟩ := hothers d hd
      rw [hname, Record.contains_text, Record.contains_text, Record.get?_insert, if_neg hne]
    rw [merge_cons, ih hrest, List.filter_congr hnew, Record.keys_insert]
    show _ = base.keys ++ (Scalar.text k :: Record.keys rest).filter fun key => !base.contains key
    cases hcontains : base.contains (.text k) with
    | true => simp [hcontains]
    | false => simp [hcontains]

/-! ## Every place -/

variable {v : Data} {path : List String}

/-- **The settings after a value was laid on another**: those of the layer, and those of the base
    that it neither replaces nor cuts off.  By induction on the path.  With a first key, the layer
    is a mapping or not; a mapping is laid on a mapping, where `get?_merge` says what is under that
    key, or on something else, below which the base has nothing. -/
theorem sets_mergeValue_iff {old : Option Data} {value : Data} (h : value.IsTree) :
    (mergeValue old value).Sets path v ↔
      value.Sets path v ∨
        ∃ d, old = some d ∧ d.Sets path v ∧ value.at? path = none ∧ ¬ value.Cuts path := by
  induction path generalizing old value with
  | nil =>
    have hsomething : value.at? [] ≠ none := by simp
    rcases map_or_plain value with ⟨layer, rfl⟩ | hplain
    · rcases @mergeValue_map layer old with ⟨base, -, heq⟩ | ⟨-, heq⟩ <;> simp [heq]
    · simp [mergeValue_plain hplain]
  | cons key path ih =>
    rcases map_or_plain value with ⟨layer, rfl⟩ | hplain
    · rcases @mergeValue_map layer old with ⟨base, rfl, heq⟩ | ⟨hold, heq⟩
      · have hunder := get?_merge h base key
        cases hget : Record.get? key layer with
        | none =>
          rw [hget] at hunder
          simp [heq, sets_cons_iff, cuts_cons_iff, hunder, hget]
        | some w =>
          rw [hget] at hunder
          have hvalue : (mergeValue (Record.get? key base) w).Sets path v ↔ _ :=
            ih (h.of_get? hget)
          simp [heq, sets_cons_iff, cuts_cons_iff, hunder, hget, hvalue, ← exists_and_right,
            and_assoc]
      · rw [heq]
        refine ⟨Or.inl, ?_⟩
        rintro (hsets | ⟨d, rfl, hsets, -⟩)
        · exact hsets
        · rcases map_or_plain d with ⟨base, rfl⟩ | hplain
          · exact absurd rfl (hold base)
          · exact absurd hsets (not_sets_plain hplain)
    · rw [mergeValue_plain hplain]
      refine ⟨Or.inl, ?_⟩
      rintro (hsets | ⟨d, -, -, -, huncut⟩)
      · exact hsets
      · exact absurd (cuts_plain hplain) huncut

/-- Where base and layer both have a mapping, the result has the merged mapping, and the layer there
    is a tree again. -/
theorem at?_mergeValue {old : Option Data} {value : Data} {bs os : Record} (h : value.IsTree)
    (hbase : old.bind (at? path) = some (.map bs)) (hlayer : value.at? path = some (.map os)) :
    (mergeValue old value).at? path = some (.map (merge bs os)) ∧ IsTree (.map os) := by
  obtain ⟨d, rfl, hd⟩ := Option.bind_eq_some_iff.mp hbase
  induction path generalizing d value with
  | nil =>
    obtain rfl := Option.some.inj ((at?_nil d).symm.trans hd)
    obtain rfl := Option.some.inj ((at?_nil value).symm.trans hlayer)
    exact ⟨by rw [mergeValue, at?_nil, merge], h⟩
  | cons key path ih =>
    rcases map_or_plain value with ⟨layer, rfl⟩ | hplain
    · rcases map_or_plain d with ⟨base, rfl⟩ | hplain
      · rw [at?_map] at hd hlayer
        obtain ⟨x, hx, hxbs⟩ := Option.bind_eq_some_iff.mp hd
        obtain ⟨w, hw, hwos⟩ := Option.bind_eq_some_iff.mp hlayer
        have hunder := get?_merge h base key
        rw [hw, hx] at hunder
        have hmerged : mergeValue (some (.map base)) (.map layer) = .map (merge base layer) := by
          rw [mergeValue, merge]
        rw [hmerged, at?_map, hunder]
        exact ih (h.of_get? hw) hwos x hxbs hxbs
      · rw [at?_plain hplain] at hd
        cases hd
    · rw [at?_plain hplain] at hlayer
      cases hlayer

/-! ## Laying again -/

/-- A value that is laid on nothing stands as it is. -/
theorem mergeValue_none (value : Data) : mergeValue none value = value := by
  cases value with
  | map entries => rw [mergeValue]; rintro _ ⟨⟩
  | _ => rw [mergeValue]; rintro _ ⟨⟩

/-- A layer changes nothing when each of its values, laid on what stands under its key, gives what
    stands there. -/
theorem merge_of_settled
    (h : ∀ e ∈ layer, ∃ v, base.find? e.1 = some v ∧ mergeValue (some v) e.2 = v) :
    merge base layer = base := by
  induction layer with
  | nil => rw [merge_nil]
  | cons e rest ih =>
    obtain ⟨⟨v, hfind, hsettled⟩, hrest⟩ := List.forall_mem_cons.mp h
    rw [merge_cons, hfind, hsettled, Record.insert_of_find? hfind]
    exact ih hrest

/-- **A value that is laid a second time changes nothing any more.**  By induction on the value, for
    everything that it may be laid on at first.  A mapping that was laid on a mapping finds under
    each of its keys what came of the first time (`get?_merge`); a mapping that replaced something
    else finds itself. -/
theorem mergeValue_mergeValue {value : Data} (h : value.IsTree) (old : Option Data) :
    mergeValue (some (mergeValue old value)) value = mergeValue old value := by
  induction h generalizing old with
  | leaf plain => rw [mergeValue_plain plain, mergeValue_plain plain]
  | @map layer once texts each ih =>
    have htree : IsTree (.map layer) := .map once texts each
    have hunder : ∀ e ∈ layer, ∃ name, e.1 = .text name ∧ Record.get? name layer = some e.2 := by
      intro e he
      obtain ⟨name, hname⟩ := texts e he
      refine ⟨name, hname, once.get?_eq_some_iff.mpr ?_⟩
      rw [← hname]
      exact he
    rcases @mergeValue_map layer old with ⟨base, rfl, heq⟩ | ⟨-, heq⟩
    -- it was laid on a mapping: under each key is what the first time left there
    · have hagain : merge (merge base layer) layer = merge base layer := by
        refine merge_of_settled fun e he => ?_
        obtain ⟨name, hname, hget⟩ := hunder e he
        have hmerged := get?_merge htree base name
        rw [hget] at hmerged
        rw [hname]
        exact ⟨_, hmerged, ih e he _⟩
      rw [heq, mergeValue, ← merge, hagain]
    -- it replaced something else, and under each key is its own value
    · have hself : merge layer layer = layer := by
        refine merge_of_settled fun e he => ?_
        obtain ⟨name, hname, hget⟩ := hunder e he
        have hvalue := ih e he none
        rw [mergeValue_none] at hvalue
        rw [hname]
        exact ⟨_, hget, hvalue⟩
      rw [heq, mergeValue, ← merge, hself]

/-! ## Layers

The statements about one value laid on another are put together for two whole configurations. -/

/-- A layer over a base: the settings of the result are those of the layer, and those of the base
    that stand where the layer has nothing and has no setting above; where both have a mapping, the
    keys of the base come first and the new ones of the layer behind them; and laying nothing, or
    laying a layer on itself or again on what came of it, changes nothing. -/
theorem merge_settings (base layer : Record) (h : IsTree (.map layer)) :
    mergeGiven (.map base) (.map layer) = .ok (merge base layer) ∧
    (∀ path v, (Data.map (merge base layer)).Sets path v ↔
      (Data.map layer).Sets path v ∨
        (Data.map base).Sets path v ∧ (Data.map layer).at? path = none ∧
          ¬ (Data.map layer).Cuts path) ∧
    (∀ (path : List String) (lower upper : Record),
      (Data.map base).at? path = some (.map lower) →
      (Data.map layer).at? path = some (.map upper) →
      ∃ merged : Record, (Data.map (merge base layer)).at? path = some (.map merged) ∧
        merged.keys = lower.keys ++ upper.keys.filter fun key => !lower.contains key) ∧
    merge base [] = base ∧ merge layer layer = layer ∧
    merge (merge base layer) layer = merge base layer := by
  have hmap : ∀ r, mergeValue (some (.map r)) (.map layer) = .map (merge r layer) := fun r => by
    rw [mergeValue, merge]
  refine ⟨rfl, ?_, ?_, merge_nil base, ?_, ?_⟩
  · intro path v
    rw [← hmap, sets_mergeValue_iff h]
    simp
  · intro path lower upper hlower hupper
    obtain ⟨hmerged, htree⟩ := @at?_mergeValue path (some (.map base)) _ lower upper h hlower hupper
    rw [hmap] at hmerged
    exact ⟨merge lower upper, hmerged, keys_merge htree⟩
  · have hagain := mergeValue_mergeValue h none
    rw [mergeValue_none, hmap] at hagain
    exact Data.map.inj hagain
  · have hagain := mergeValue_mergeValue h (some (.map base))
    rw [hmap, hmap] at hagain
    exact Data.map.inj hagain

/-- Defaults with an object for the service and one for the journal. -/
def shippedDefaults : Record :=
  Record.ofTexts [("api", .map (Record.ofTexts [("host", .text "h"), ("timeout", .int 30)])),
    ("log", .map (Record.ofTexts [("level", .text "INFO")])), ("queries", .null)]

/-- A file that changes one setting of the service, silences the journal and brings searches. -/
def siteFile : Record :=
  Record.ofTexts [("queries", .list [.int 1]),
    ("api", .map (Record.ofTexts [("retries", .int 2), ("timeout", .int 5)])), ("log", .null)]

/-- The site's file is a tree: the keys of its three entries differ, and so do those of its object
    for the service. -/
theorem isTree_siteFile : IsTree (.map siteFile) := by
  refine isTree_ofTexts (by decide) ?_
  simp only [List.forall_mem_cons]
  refine ⟨.leaf rfl, isTree_ofTexts (by decide) ?_, .leaf rfl, fun _ h => nomatch h⟩
  simp only [List.forall_mem_cons]
  exact ⟨.leaf rfl, .leaf rfl, fun _ h => nomatch h⟩

/-- What the site's file leaves of the defaults: the service keeps its host and gets the new
    timeout, nothing stands below the silenced journal, and the new key of the service comes
    last. -/
theorem merge_settings_site :
    IsTree (.map siteFile) ∧
      (Data.map (merge shippedDefaults siteFile)).Sets ["api", "host"] (.text "h") ∧
      (Data.map (merge shippedDefaults siteFile)).Sets ["api", "timeout"] (.int 5) ∧
      (∀ v, ¬ (Data.map (merge shippedDefaults siteFile)).Sets ["log", "level"] v) ∧
      ∃ merged : Record,
        (Data.map (merge shippedDefaults siteFile)).at? ["api"] = some (.map merged) ∧
        merged.keys = [.text "host", .text "timeout", .text "retries"] := by
  obtain ⟨-, hsets, hkeys, -⟩ := merge_settings shippedDefaults siteFile isTree_siteFile
  have hsilent : (Data.map siteFile).Sets ["log"] .null := ⟨rfl, rfl⟩
  refine ⟨isTree_siteFile, ?_, ?_, ?_, ?_⟩
  · refine (hsets _ _).mpr (Or.inr ⟨⟨rfl, rfl⟩, rfl, ?_⟩)
    intro hcuts
    obtain ⟨service, hservice, hbelow⟩ := cuts_cons_iff.mp hcuts
    obtain rfl := Option.some.inj hservice
    obtain ⟨host, hhost, -⟩ := cuts_cons_iff.mp hbelow
    cases hhost
  · exact (hsets _ _).mpr (Or.inl ⟨rfl, rfl⟩)
  · intro v hv
    rcases (hsets _ _).mp hv with ⟨hat, -⟩ | ⟨-, -, huncut⟩
    · cases hat
    · exact huncut ⟨["log"], .null, ⟨["level"], rfl⟩, by decide, hsilent⟩
  · obtain ⟨merged, hat, hmerged⟩ := hkeys ["api"] _ _ rfl rfl
    exact ⟨merged, hat, hmerged⟩

end Config

end NewsSearch
