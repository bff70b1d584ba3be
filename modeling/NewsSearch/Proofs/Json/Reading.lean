import NewsSearch.Json.Reader
import NewsSearch.Proofs.Accepted
import NewsSearch.Proofs.Record

/-!
What JSON text is read as.

Text may have a key twice in a mapping; what is read has it once, in mappings at any depth.  What is
read has the shape of JSON: numbers, texts, truth values or nothing, in lists and under text keys
(`Shaped`).

Both are properties that a list has when its items do, and a mapping when the values of the pairs do
from which it is made (`Closed`).

1. A word or a numeral is read as a scalar of that shape (`plainValue_scalar`).
2. Reading is a recursion on a bound for its steps, over values, items and members at once.  So what
   is read in so many steps is a statement about all three (`Within`), and one step more keeps it,
   in each of them (`Within.value_succ`, `Within.items_succ`, `Within.members_succ`).  When the
   bound is used up, nothing is read.
3. By induction on the bound everything that is read has the property (`Closed.within`,
   `Closed.of_read`).

Main statements: `keysOnce_of_read` and `shaped_of_read`.
-/

namespace NewsSearch.Json

/-- A value of the shape of JSON, whatever its texts and numbers are. -/
inductive Shaped : Data → Prop
  | null : Shaped .null
  | bool (b : Bool) : Shaped (.bool b)
  | int (n : Int) : Shaped (.int n)
  | float (x : Float) : Shaped (.float x)
  | text (s : String) : Shaped (.text s)
  | list {items : List Data} (each : ∀ d ∈ items, Shaped d) : Shaped (.list items)
  | map {entries : Record} (keys : ∀ e ∈ entries, ∃ name, e.1 = .text name)
      (each : ∀ e ∈ entries, Shaped e.2) : Shaped (.map entries)

/-- What stands under a key of a mapping of the shape of JSON has that shape. -/
theorem shaped_of_get? {entries : Record} (h : Shaped (.map entries)) {name : String}
    {v : Data} (hv : entries.get? name = some v) : Shaped v := by
  obtain ⟨e, he, rfl⟩ := Record.mem_of_find? hv
  cases h with
  | map _ each => exact each e he

/-- So has what is found under a key, or the null that is found where there is none. -/
theorem shaped_of_getD {entries : Record} (h : Shaped (.map entries)) (name : String) :
    Shaped (entries.getD name) := by
  rw [Record.getD]
  cases hfound : entries.get? name with
  | none => exact .null
  | some v => exact shaped_of_get? h hfound

/-- A word or a number is a scalar.  The words are a few, and a number is an integer or a decimal
    number. -/
theorem plainValue_scalar {cs rest : List Char} {d : Data} (h : plainValue cs = .ok (d, rest)) :
    ∃ s, d = .scalar s ∧ Shaped (.scalar s) := by
  unfold plainValue at h
  split at h
  · next found hword =>
    cases h
    obtain ⟨⟨w, d'⟩, hmem, hfound⟩ := List.exists_of_findSome?_eq_some hword
    simp only [] at hfound
    split at hfound
    · cases hfound
      have hall : ∀ p ∈ words, ∃ s, p.2 = Data.scalar s ∧ Shaped (.scalar s) := by
        simp [words, Shaped.null, Shaped.bool, Shaped.float]
      exact hall _ hmem
    · cases hfound
  · split at h
    · next result hnumber =>
      rw [h] at hnumber
      have hunsigned : ∃ negative body, unsignedNumber? negative body = some (.ok (d, rest)) := by
        unfold number? at hnumber
        split at hnumber
        · exact ⟨_, _, hnumber⟩
        · exact ⟨_, _, hnumber⟩
      obtain ⟨negative, body, hunsigned⟩ := hunsigned
      obtain ⟨⟨whole, afterWhole⟩, -, hresult⟩ := Option.map_eq_some_iff.mp hunsigned
      simp only [] at hresult
      split at hresult
      · split at hresult
        · cases hresult
        · cases hresult
          exact ⟨_, rfl, .int _⟩
      · cases hresult
        exact ⟨_, rfl, .float _⟩
    · cases h

/-- A property of values that goes from the parts of a list or a mapping that is read to the
    whole. -/
structure Closed (P : Data → Prop) : Prop where
  scalar : ∀ {s}, Shaped (.scalar s) → P (.scalar s)
  list : ∀ {ds}, (∀ d ∈ ds, P d) → P (.list ds)
  map : ∀ {es : List (Scalar × Data)}, (∀ e ∈ es, (∃ name, e.1 = .text name) ∧ P e.2) →
    P (.map (Record.ofPairs es))

/-- Whatever is read in so many steps has the property. -/
structure Within (P : Data → Prop) (fuel : Nat) : Prop where
  value : ∀ {cs d rest}, value fuel cs = .ok (d, rest) → P d
  items : ∀ {cs ds rest}, items fuel cs = .ok (ds, rest) → ∀ d ∈ ds, P d
  members : ∀ {cs es rest}, members fuel cs = .ok (es, rest) →
    ∀ e ∈ es, (∃ name, e.1 = .text name) ∧ P e.2

section Step

variable {P : Data → Prop} {fuel : Nat} {cs rest : List Char}

/-- A value is a text, a list, a mapping or something plain, and its parts are read in fewer
    steps. -/
theorem Within.value_succ (closed : Closed P) (within : Within P fuel) {d : Data}
    (h : Json.value (fuel + 1) cs = .ok (d, rest)) : P d := by
  unfold Json.value at h
  split at h
  · obtain ⟨_, -, hd⟩ := map_eq_ok_iff.mp h
    cases hd
    exact closed.scalar (.text _)
  · split at h
    · cases h
      exact closed.list fun d hd => absurd hd List.not_mem_nil
    · obtain ⟨⟨ds, after⟩, hds, hd⟩ := map_eq_ok_iff.mp h
      cases hd
      exact closed.list (within.items hds)
  · split at h
    · cases h
      exact closed.map fun e he => absurd he List.not_mem_nil
    · obtain ⟨⟨es, after⟩, hes, hd⟩ := map_eq_ok_iff.mp h
      cases hd
      exact closed.map (within.members hes)
  · obtain ⟨s, rfl, hs⟩ := plainValue_scalar h
    exact closed.scalar hs

/-- Items are a value and perhaps further items. -/
theorem Within.items_succ (within : Within P fuel) {ds : List Data}
    (h : Json.items (fuel + 1) cs = .ok (ds, rest)) : ∀ d ∈ ds, P d := by
  rw [Json.items, bind_eq_ok_iff] at h
  obtain ⟨⟨d, afterItem⟩, hd, h⟩ := h
  have hd := within.value hd
  simp only [] at h
  split at h
  · cases h
    exact List.forall_mem_singleton.mpr hd
  · obtain ⟨⟨ds, after⟩, hds, heq⟩ := map_eq_ok_iff.mp h
    cases heq
    exact List.forall_mem_cons.mpr ⟨hd, within.items hds⟩
  · cases h

/-- Members are a text with a value and perhaps further members. -/
theorem Within.members_succ (within : Within P fuel) {es : List (Scalar × Data)}
    (h : Json.members (fuel + 1) cs = .ok (es, rest)) :
    ∀ e ∈ es, (∃ name, e.1 = .text name) ∧ P e.2 := by
  unfold Json.members at h
  split at h
  · rw [bind_eq_ok_iff] at h
    obtain ⟨⟨name, afterName⟩, -, h⟩ := h
    simp only [] at h
    split at h
    · rw [bind_eq_ok_iff] at h
      obtain ⟨⟨d, afterValue⟩, hd, h⟩ := h
      have hd := within.value hd
      simp only [] at h
      split at h
      · cases h
        exact List.forall_mem_singleton.mpr ⟨⟨_, rfl⟩, hd⟩
      · obtain ⟨⟨es, after⟩, hes, heq⟩ := map_eq_ok_iff.mp h
        cases heq
        exact List.forall_mem_cons.mpr ⟨⟨⟨_, rfl⟩, hd⟩, within.members hes⟩
      · cases h
    · cases h
  · cases h

end Step

/-- Whatever is read in any number of steps has the property, by induction on that number. -/
theorem Closed.within {P : Data → Prop} (closed : Closed P) (fuel : Nat) : Within P fuel := by
  induction fuel with
  | zero =>
    constructor
    all_goals
      intro _ _ _ h
      cases h
  | succ fuel ih => exact ⟨ih.value_succ closed, ih.items_succ, ih.members_succ⟩

/-- What is read from a text has every such property. -/
theorem Closed.of_read {P : Data → Prop} (closed : Closed P) {s : String} {d : Data}
    (h : read s = .ok d) : P d := by
  rw [read, mapError_eq_ok_iff] at h
  unfold document at h
  split at h
  · cases h
  · rw [bind_eq_ok_iff] at h
    obtain ⟨⟨d', afterValue⟩, hvalue, h⟩ := h
    simp only [] at h
    split at h
    · cases h
      exact (closed.within _).value hvalue
    · cases h

/-- **Every mapping within what is read from a text has each of its keys once**, because it is made
    from its pairs, and a key that comes again replaces the value. -/
theorem keysOnce_of_read {s : String} {d : Data} (h : read s = .ok d) : d.KeysOnce := by
  refine Closed.of_read ⟨fun {s} _ => .scalar s, .list, ?_⟩ h
  intro es hes
  refine .map Record.keysOnce_ofPairs ?_
  intro e he
  obtain ⟨p, hp, heq⟩ := Record.mem_ofPairs he
  rw [← heq]
  exact (hes p hp).2

/-- **What is read from a text has the shape of JSON.** -/
theorem shaped_of_read {s : String} {d : Data} (h : read s = .ok d) : Shaped d := by
  refine Closed.of_read ⟨id, .list, ?_⟩ h
  intro es hes
  refine .map ?_ ?_
  · intro e he
    obtain ⟨p, hp, heq⟩ := Record.key_of_mem_ofPairs he
    rw [← heq]
    exact (hes p hp).1
  · intro e he
    obtain ⟨p, hp, heq⟩ := Record.mem_ofPairs he
    rw [← heq]
    exact (hes p hp).2

end NewsSearch.Json
