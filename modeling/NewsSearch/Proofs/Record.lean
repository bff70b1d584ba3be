import NewsSearch.Data.Basic

/-!
Mappings as lists of entries.

A mapping is a list of entries in the order in which their keys were first set.  Keys are compared
as values, so that the number 1 and the truth value that counts as 1 are one key.  This file has
what the rest of the development uses of mappings and of values in general.

* *Finding.* Text keys are found by what they say, for nothing else is the same as a text
  (`Scalar.same_text_iff`).  So most lemmas are about text keys, where the sameness of keys is
  equality.
* *Setting.* A key that is set keeps its place or comes last (`keys_insert`), it has the new value
  (`get?_insert`), and the others keep theirs (`get?_insert_of_ne`).
* *Making.* A mapping has each of its keys once.  `Record.insert` keeps that (`KeysOnce.insert`), so
  the mapping that results from setting pairs one after the other has it whatever the pairs are
  (`keysOnce_ofPairs`); and pairs that have it already are the entries of the mapping that they make
  (`ofPairs_eq_self`).  `Data.KeysOnce` asks the same of all mappings within a value.
* *Updating.* Under a key of an updated mapping stands what the changes give to it, or else what was
  there (`get?_update`).
* *Parts.* What is shown of a value is mostly shown from its parts, by `Data.fromParts`; and what is
  asked of it is often asked of every key and every scalar within it (`Data.Every`).  A property
  that a value has by its parts can be decided, for a value ends somewhere
  (`Data.ByParts.decidable`).
-/

namespace NewsSearch

/-- A text key is the same as no other key. -/
theorem Scalar.same_text_iff {k : Scalar} {name : String} :
    k.same (.text name) = true ↔ k = .text name := by
  cases k <;> simp [Scalar.same, Scalar.integer?]

/-- No other key is the same as a text key. -/
theorem Scalar.text_same_iff {k : Scalar} {name : String} :
    (Scalar.text name).same k = true ↔ k = .text name := by
  cases k with
  | text s =>
    rw [same_text, beq_iff_eq, text.injEq]
    exact eq_comm
  | _ => simp [same, integer?]

namespace Record

/-! ## Finding entries -/

/-- A key is there exactly when there is something under it. -/
theorem contains_iff_find? {key : Scalar} {r : Record} :
    r.contains key = true ↔ ∃ v, r.find? key = some v := by
  induction r with
  | nil => simp [contains]
  | cons e rest ih =>
    obtain ⟨k, v⟩ := e
    cases hk : k.same key with
    | true => simp [contains, find?, hk]
    | false => simpa [contains, find?, hk] using ih

/-- A text key is there when there is something under it. -/
theorem contains_text {name : String} {r : Record} :
    r.contains (.text name) = (r.get? name).isSome := by
  rw [Bool.eq_iff_iff, contains_iff_find?, Option.isSome_iff_exists, get?]

/-- Nothing stands under a text that is no key. -/
theorem get?_eq_none {r : Record} {name : String} (h : ∀ e ∈ r, e.1 ≠ .text name) :
    r.get? name = none := by
  refine Option.eq_none_iff_forall_ne_some.mpr fun v hv => ?_
  have hcontains : r.contains (.text name) = true := contains_iff_find?.mpr ⟨v, hv⟩
  obtain ⟨e, he, hsame⟩ := List.any_eq_true.mp hcontains
  exact h e he (Scalar.same_text_iff.mp hsame)

/-- Text keys are found by what they say. -/
theorem contains_cons_text {key name : String} {item : Data} {rest : List (Scalar × Data)} :
    Record.contains (.text name) ((.text key, item) :: rest) = true ↔
      key = name ∨ Record.contains (.text name) rest = true := by
  simp [contains]

/-- What is found under a key stands in an entry. -/
theorem mem_of_find? {key : Scalar} {r : Record} {v : Data} (h : r.find? key = some v) :
    ∃ e ∈ r, e.2 = v := by
  induction r with
  | nil => cases h
  | cons e rest ih =>
    rw [find?] at h
    split at h
    · exact ⟨e, List.mem_cons_self, Option.some.inj h⟩
    · obtain ⟨e', he', hv⟩ := ih h
      exact ⟨e', List.mem_cons_of_mem e he', hv⟩

/-! ## Setting entries

All proofs here are inductions on the entries, with the case that the first key is the one that is
set and the case that it is not. -/

/-- No key is the same as a key before it. -/
def KeysOnce (r : Record) : Prop := r.Pairwise fun a b => a.1.same b.1 = false

/-- What is found under a text key is what stands there, when each key is there once. -/
theorem KeysOnce.get?_eq_some_iff {r : Record} (h : r.KeysOnce) {name : String} {v : Data} :
    r.get? name = some v ↔ (.text name, v) ∈ r := by
  rw [get?]
  induction r with
  | nil => simp
  | cons e rest ih =>
    obtain ⟨hfirst, hrest⟩ := List.pairwise_cons.mp h
    rw [find?, List.mem_cons]
    cases hkey : e.1.same (.text name) with
    | false =>
      have hne : (.text name, v) ≠ e := by
        rintro rfl
        rw [Scalar.same_text_iff.mpr rfl] at hkey
        cases hkey
      simp [ih hrest, hne]
    | true =>
      have heq : e.1 = .text name := Scalar.same_text_iff.mp hkey
      have hnot : (.text name, v) ∉ rest := by
        intro hmem
        have hother := hfirst _ hmem
        rw [hkey] at hother
        cases hother
      simp [hnot, Prod.ext_iff, heq, eq_comm]

/-- Something under a text key stands there. -/
theorem get?_of_getD_ne_null {r : Record} {name : String} (h : r.getD name ≠ .null) :
    r.get? name = some (r.getD name) := by
  rw [getD] at h ⊢
  cases hfound : r.get? name with
  | none =>
    rw [hfound] at h
    exact absurd rfl h
  | some v => rfl

/-- A key that is not there yet is set at the end. -/
theorem insert_of_absent {key : Scalar} {value : Data} {r : Record}
    (h : ∀ e ∈ r, e.1.same key = false) : r.insert key value = r ++ [(key, value)] := by
  induction r with
  | nil => rfl
  | cons e rest ih =>
    obtain ⟨hkey, hrest⟩ := List.forall_mem_cons.mp h
    rw [insert, hkey, if_neg Bool.false_ne_true, ih hrest]
    rfl

/-- The entries after a key is set have keys from before, or the key, and their values too. -/
theorem mem_insert {key : Scalar} {value : Data} {r : Record} {e : Scalar × Data}
    (h : e ∈ r.insert key value) :
    (e.1 = key ∨ ∃ d ∈ r, d.1 = e.1) ∧ (e.2 = value ∨ ∃ d ∈ r, d.2 = e.2) := by
  induction r with
  | nil =>
    rw [List.mem_singleton.mp h]
    exact ⟨Or.inl rfl, Or.inl rfl⟩
  | cons first rest ih =>
    rw [insert] at h
    split at h
    · rcases List.mem_cons.mp h with rfl | h
      · exact ⟨Or.inr ⟨first, List.mem_cons_self, rfl⟩, Or.inl rfl⟩
      · have hmem := List.mem_cons_of_mem first h
        exact ⟨Or.inr ⟨e, hmem, rfl⟩, Or.inr ⟨e, hmem, rfl⟩⟩
    · rcases List.mem_cons.mp h with rfl | h
      · have hmem : first ∈ first :: rest := List.mem_cons_self
        exact ⟨Or.inr ⟨first, hmem, rfl⟩, Or.inr ⟨first, hmem, rfl⟩⟩
      · obtain ⟨hkey, hvalue⟩ := ih h
        refine ⟨hkey.imp_right ?_, hvalue.imp_right ?_⟩
        · rintro ⟨d, hd, heq⟩
          exact ⟨d, List.mem_cons_of_mem first hd, heq⟩
        · rintro ⟨d, hd, heq⟩
          exact ⟨d, List.mem_cons_of_mem first hd, heq⟩

/-- Setting a text key gives it the value and leaves every other text key with its own. -/
theorem get?_insert {key name : String} {value : Data} {r : Record} :
    (r.insert (.text key) value).get? name = if key = name then some value else r.get? name := by
  simp only [get?]
  induction r with
  | nil => simp [insert, find?]
  | cons e rest ih =>
    obtain ⟨k, v⟩ := e
    cases hkey : k.same (.text key) with
    | true =>
      obtain rfl := Scalar.same_text_iff.mp hkey
      by_cases hname : key = name <;> simp [insert, find?, hname]
    | false =>
      rw [insert, hkey, if_neg Bool.false_ne_true, find?, find?, ih]
      cases hother : k.same (.text name) with
      | false => simp
      | true =>
        obtain rfl := Scalar.same_text_iff.mp hother
        have hne : key ≠ name := by
          rintro rfl
          rw [hother] at hkey
          cases hkey
        simp [hne]

/-- Setting a key that is not the text leaves what stands under the text. -/
theorem get?_insert_of_ne {key : Scalar} {name : String} {value : Data} {r : Record}
    (hkey : key ≠ .text name) : (r.insert key value).get? name = r.get? name := by
  have hnew : key.same (.text name) = false :=
    eq_false_of_ne_true fun h => hkey (Scalar.same_text_iff.mp h)
  simp only [get?]
  induction r with
  | nil => simp [insert, find?, hnew]
  | cons e rest ih =>
    obtain ⟨k, v⟩ := e
    rw [insert]
    split
    · next hsame =>
      -- the entry that takes the value is not under the text either
      have hother : k.same (.text name) = false := by
        refine eq_false_of_ne_true fun h => hkey ?_
        rw [Scalar.same_text_iff.mp h] at hsame
        exact Scalar.text_same_iff.mp hsame
      simp [find?, hother]
    · rw [find?, find?, ih]

/-- Setting a key to what stands under it changes nothing. -/
theorem insert_of_find? {key : Scalar} {value : Data} {r : Record}
    (h : r.find? key = some value) : r.insert key value = r := by
  induction r with
  | nil => cases h
  | cons e rest ih =>
    obtain ⟨k, v⟩ := e
    rw [find?] at h
    rw [insert]
    split at h
    · next hkey => rw [if_pos hkey, Option.some.inj h]
    · next hkey => rw [if_neg hkey, ih h]

/-- A key that is set keeps its place, or is the last one when it is new. -/
theorem keys_insert {key : Scalar} {value : Data} {r : Record} :
    (r.insert key value).keys = if r.contains key then r.keys else r.keys ++ [key] := by
  induction r with
  | nil => rfl
  | cons e rest ih =>
    obtain ⟨k, v⟩ := e
    rw [insert]
    cases hkey : k.same key with
    | true => simp [keys, contains, hkey]
    | false =>
      have hcontains : contains key ((k, v) :: rest) = contains key rest := by
        simp [contains, hkey]
      rw [hcontains, if_neg Bool.false_ne_true, keys, List.map_cons, ← keys, ih]
      split <;> rfl

/-- Setting a key does not make a second one of it. -/
theorem KeysOnce.insert {key : Scalar} {value : Data} {r : Record} (h : r.KeysOnce) :
    (r.insert key value).KeysOnce := by
  induction r with
  | nil => exact List.pairwise_singleton _ _
  | cons e rest ih =>
    obtain ⟨hfirst, hrest⟩ := List.pairwise_cons.mp h
    rw [Record.insert]
    split
    · exact List.pairwise_cons.mpr ⟨hfirst, hrest⟩
    · next hkey =>
      refine List.pairwise_cons.mpr ⟨?_, ih hrest⟩
      intro d hd
      rcases (mem_insert hd).1 with hnew | ⟨d', hd', heq⟩
      · rw [hnew]
        exact eq_false_of_ne_true hkey
      · rw [← heq]
        exact hfirst d' hd'

/-- Different names are the keys of a mapping. -/
theorem keysOnce_ofTexts {pairs : List (String × Data)} (h : (pairs.map (·.1)).Nodup) :
    (ofTexts pairs).KeysOnce := by
  refine List.pairwise_map.mpr ((List.pairwise_map.mp h).imp ?_)
  intro a b hne
  rw [Scalar.same_text, beq_eq_false_iff_ne]
  exact hne

/-! ## Mappings from pairs -/

variable {r : Record} {pairs : List (Scalar × Data)}

/-- Nor does setting several keys. -/
theorem KeysOnce.update (h : r.KeysOnce) : (r.update pairs).KeysOnce := by
  induction pairs generalizing r with
  | nil => exact h
  | cons p rest ih => exact ih h.insert

/-- A value in an updated mapping was there before, or is one of the changes. -/
theorem mem_update {e : Scalar × Data} (h : e ∈ r.update pairs) :
    (∃ d ∈ r, d.2 = e.2) ∨ ∃ p ∈ pairs, p.2 = e.2 := by
  induction pairs generalizing r with
  | nil => exact Or.inl ⟨e, h, rfl⟩
  | cons p rest ih =>
    rcases ih h with ⟨d, hd, heq⟩ | ⟨q, hq, heq⟩
    · rcases (mem_insert hd).2 with hnew | ⟨d', hd', heq'⟩
      · exact Or.inr ⟨p, List.mem_cons_self, hnew.symm.trans heq⟩
      · exact Or.inl ⟨d', hd', heq'.trans heq⟩
    · exact Or.inr ⟨q, List.mem_cons_of_mem p hq, heq⟩

/-- So is a key. -/
theorem key_of_mem_update {e : Scalar × Data} (h : e ∈ r.update pairs) :
    (∃ d ∈ r, d.1 = e.1) ∨ ∃ p ∈ pairs, p.1 = e.1 := by
  induction pairs generalizing r with
  | nil => exact Or.inl ⟨e, h, rfl⟩
  | cons p rest ih =>
    rcases ih h with ⟨d, hd, heq⟩ | ⟨q, hq, heq⟩
    · rcases (mem_insert hd).1 with hnew | ⟨d', hd', heq'⟩
      · exact Or.inr ⟨p, List.mem_cons_self, hnew.symm.trans heq⟩
      · exact Or.inl ⟨d', hd', heq'.trans heq⟩
    · exact Or.inr ⟨q, List.mem_cons_of_mem p hq, heq⟩

/-- Further keys are set at the end, in order. -/
theorem update_eq_append (h : KeysOnce (r ++ pairs)) : r.update pairs = r ++ pairs := by
  induction pairs generalizing r with
  | nil => exact (List.append_nil r).symm
  | cons p rest ih =>
    have hp : ∀ e ∈ r, e.1.same p.1 = false := fun e he =>
      (List.pairwise_append.mp h).2.2 e he p List.mem_cons_self
    have hinsert : r.insert p.1 p.2 = r ++ [p] := insert_of_absent hp
    have hmore : KeysOnce ((r ++ [p]) ++ rest) := by
      rw [List.append_assoc]
      exact h
    have hrest := ih hmore
    show Record.update (r.insert p.1 p.2) rest = r ++ p :: rest
    rw [hinsert, hrest, List.append_assoc, List.singleton_append]

/-- **Looking up an update.**  Under a text key stands what the pairs give to it, or else what stood
    there before. -/
theorem get?_update {name : String} :
    (r.update pairs).get? name = ((ofPairs pairs).get? name).or (r.get? name) := by
  induction pairs generalizing r with
  | nil => rfl
  | cons p rest ih =>
    obtain ⟨key, value⟩ := p
    -- the pairs behind the first one decide, then the first one, then the mapping before
    have hfirst : (r.insert key value).get? name =
        (Record.get? name [(key, value)]).or (r.get? name) := by
      by_cases hkey : key = .text name
      · subst hkey
        rw [get?_insert, if_pos rfl]
        simp [get?, find?]
      · have hnew : key.same (.text name) = false :=
          eq_false_of_ne_true fun h => hkey (Scalar.same_text_iff.mp h)
        rw [get?_insert_of_ne hkey]
        simp [get?, find?, hnew]
    show Record.get? name (Record.update (r.insert key value) rest) =
      (Record.get? name (Record.update [(key, value)] rest)).or (r.get? name)
    rw [ih, ih, Option.or_assoc, hfirst]

/-- A mapping has each key once, whatever pairs it was made from. -/
theorem keysOnce_ofPairs : (ofPairs pairs).KeysOnce := KeysOnce.update List.Pairwise.nil

/-- The values of a mapping come from the pairs. -/
theorem mem_ofPairs {e : Scalar × Data} (h : e ∈ ofPairs pairs) : ∃ p ∈ pairs, p.2 = e.2 := by
  rcases mem_update h with ⟨d, hd, -⟩ | hp
  · cases hd
  · exact hp

/-- The keys of a mapping come from the pairs. -/
theorem key_of_mem_ofPairs {e : Scalar × Data} (h : e ∈ ofPairs pairs) :
    ∃ p ∈ pairs, p.1 = e.1 := by
  rcases key_of_mem_update h with ⟨d, hd, -⟩ | hp
  · cases hd
  · exact hp

/-- Pairs that have each key once are the entries of the mapping that they make. -/
theorem ofPairs_eq_self (h : KeysOnce pairs) : ofPairs pairs = pairs := update_eq_append h

end Record

/-! ## Values and their parts -/

namespace Data

/-- **Induction over values.**  A property that goes from the parts of a value to the value is one
    of every value. -/
theorem fromParts {P : Data → Prop} (scalar : ∀ s, P (.scalar s))
    (list : ∀ items, (∀ d ∈ items, P d) → P (.list items))
    (tuple : ∀ items, (∀ d ∈ items, P d) → P (.tuple items))
    (map : ∀ entries : Record, (∀ e ∈ entries, P e.2) → P (.map entries)) (d : Data) : P d := by
  refine @Data.rec P (fun items => ∀ d ∈ items, P d) (fun entries => ∀ e ∈ entries, P e.2)
    (fun e => P e.2) scalar list tuple map ?_ ?_ ?_ ?_ ?_ d
  · exact fun _ hd => absurd hd List.not_mem_nil
  · exact fun _ _ hd hrest => List.forall_mem_cons.mpr ⟨hd, hrest⟩
  · exact fun _ he => absurd he List.not_mem_nil
  · exact fun _ _ he hrest => List.forall_mem_cons.mpr ⟨he, hrest⟩
  · exact fun _ _ hd => hd

/-- Every key within the value has the one property, and every scalar in it the other. -/
inductive Every (K V : Scalar → Prop) : Data → Prop
  | scalar {s : Scalar} (holds : V s) : Every K V (.scalar s)
  | list {items : List Data} (each : ∀ d ∈ items, d.Every K V) : Every K V (.list items)
  | tuple {items : List Data} (each : ∀ d ∈ items, d.Every K V) : Every K V (.tuple items)
  | map {entries : Record} (keys : ∀ e ∈ entries, K e.1) (each : ∀ e ∈ entries, e.2.Every K V) :
      Every K V (.map entries)

variable {K V : Scalar → Prop}

@[simp] theorem every_scalar_iff {s : Scalar} : Every K V (.scalar s) ↔ V s :=
  ⟨fun | .scalar holds => holds, .scalar⟩

/-- A list has it when its items have. -/
theorem every_list_iff {items : List Data} :
    Every K V (.list items) ↔ ∀ d ∈ items, d.Every K V :=
  ⟨fun | .list each => each, .list⟩

/-- A mapping has it when its keys and its values have. -/
theorem every_map_iff {entries : Record} :
    Every K V (.map entries) ↔ ∀ e ∈ entries, K e.1 ∧ e.2.Every K V :=
  ⟨fun | .map keys each => fun e he => ⟨keys e he, each e he⟩,
    fun h => .map (fun e he => (h e he).1) fun e he => (h e he).2⟩

/-- What stands under a key of a mapping has the property, and so has nothing when it is missing. -/
theorem Every.getD {entries : Record} (h : Every K V (.map entries)) (hnull : V .null)
    (name : String) : (entries.getD name).Every K V := by
  rw [Record.getD]
  cases hfound : entries.get? name with
  | none => exact .scalar hnull
  | some v =>
    obtain ⟨e, he, rfl⟩ := Record.mem_of_find? hfound
    exact (every_map_iff.mp h e he).2

end Data

/-- All mappings within the value have each key once. -/
inductive Data.KeysOnce : Data → Prop
  | scalar (s : Scalar) : KeysOnce (.scalar s)
  | list {items : List Data} (each : ∀ d ∈ items, d.KeysOnce) : KeysOnce (.list items)
  | tuple {items : List Data} (each : ∀ d ∈ items, d.KeysOnce) : KeysOnce (.tuple items)
  | map {entries : Record} (once : entries.KeysOnce) (each : ∀ e ∈ entries, e.2.KeysOnce) :
      KeysOnce (.map entries)

/-- What stands under a key of a mapping is a value within it. -/
theorem Data.keysOnce_getD {entries : Record} (h : Data.KeysOnce (.map entries)) (name : String) :
    (entries.getD name).KeysOnce := by
  rw [Record.getD]
  cases hfound : entries.get? name with
  | none => exact .scalar _
  | some v =>
    obtain ⟨e, he, rfl⟩ := Record.mem_of_find? hfound
    cases h with
    | map _ each => exact each e he

/-! ## Deciding about parts -/

namespace Data

/-- A property that a value has by its parts: a scalar by itself, a list or a tuple when its items
    have it, and a mapping when its values have it and its entries go together. -/
structure ByParts (S : Scalar → Prop) (C : Record → Prop) (P : Data → Prop) : Prop where
  scalar : ∀ {s : Scalar}, P (.scalar s) ↔ S s
  list : ∀ {items : List Data}, P (.list items) ↔ ∀ d ∈ items, P d
  tuple : ∀ {items : List Data}, P (.tuple items) ↔ ∀ d ∈ items, P d
  map : ∀ {entries : Record}, P (.map entries) ↔ C entries ∧ ∀ e ∈ entries, P e.2

namespace ByParts

variable {S : Scalar → Prop} {C : Record → Prop} {P : Data → Prop} [DecidablePred S]
  [DecidablePred C]

mutual

/-- Such a property can be decided. -/
def decidable (h : ByParts S C P) : ∀ d : Data, Decidable (P d)
  | .scalar s => decidable_of_iff (S s) h.scalar.symm
  | .list items => @decidable_of_iff _ _ h.list.symm (decideItems h items)
  | .tuple items => @decidable_of_iff _ _ h.tuple.symm (decideItems h items)
  | .map entries => @decidable_of_iff _ _ h.map.symm
      (@instDecidableAnd _ _ (inferInstanceAs (Decidable (C entries))) (decideValues h entries))

/-- It can be decided of all items. -/
def decideItems (h : ByParts S C P) : ∀ items : List Data, Decidable (∀ d ∈ items, P d)
  | [] => isTrue (List.forall_mem_nil _)
  | d :: rest => @decidable_of_iff _ _ List.forall_mem_cons.symm
      (@instDecidableAnd _ _ (decidable h d) (decideItems h rest))

/-- It can be decided of all values under keys. -/
def decideValues (h : ByParts S C P) :
    ∀ entries : List (Scalar × Data), Decidable (∀ e ∈ entries, P e.2)
  | [] => isTrue (List.forall_mem_nil _)
  | (_, d) :: rest => @decidable_of_iff _ _ List.forall_mem_cons.symm
      (@instDecidableAnd _ _ (decidable h d) (decideValues h rest))

end

end ByParts

/-- What is asked of every key and every scalar is asked of the parts. -/
theorem byParts_every (K V : Scalar → Prop) :
    ByParts V (fun entries => ∀ e ∈ entries, K e.1) (Every K V) where
  scalar := every_scalar_iff
  list := every_list_iff
  tuple := ⟨fun | .tuple each => each, .tuple⟩
  map := ⟨fun | .map keys each => ⟨keys, each⟩, fun h => .map h.1 h.2⟩

/-- So is having each key once. -/
theorem byParts_keysOnce : ByParts (fun _ => True) Record.KeysOnce KeysOnce where
  scalar := ⟨fun _ => trivial, fun _ => .scalar _⟩
  list := ⟨fun | .list each => each, .list⟩
  tuple := ⟨fun | .tuple each => each, .tuple⟩
  map := ⟨fun | .map once each => ⟨once, each⟩, fun h => .map h.1 h.2⟩

instance {K V : Scalar → Prop} [DecidablePred K] [DecidablePred V] : DecidablePred (Every K V) :=
  (byParts_every K V).decidable

instance : DecidablePred Record.KeysOnce := fun r =>
  inferInstanceAs (Decidable (r.Pairwise fun a b => a.1.same b.1 = false))

instance : DecidablePred KeysOnce := byParts_keysOnce.decidable

end Data

end NewsSearch
