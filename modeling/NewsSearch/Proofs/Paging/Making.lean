import NewsSearch.Paging.Options
import NewsSearch.Proofs.Accepted

/-!
Pagers made from options.

A batch size and a limit are checked, and `clamp_eq_ok_iff` and `limit_eq_ok_iff` say which are
accepted and what becomes of them: a batch size is lowered to what the service serves, and a limit
of -1 is none.  From there two things follow.

* A pager that was made has the values that its options give (`Made.values`), whether it is over a
  search or over the articles of an event.
* Every positive batch size with every limit from -1 on makes one, over a search (`made_of_search`)
  and over the articles of an event (`made_of_event`).  So what is said of pagers that were made is
  said of all of these.
-/

namespace NewsSearch.Pager

/-- The pager comes from options that were accepted, over a search or over the articles of an
    event. -/
def Made (options : PagerOptions) (p : Pager) : Prop :=
  (∃ subject query, (ofSearch subject query options).2 = .ok p) ∨
    ∃ uri, (ofEvent uri options).2 = .ok p

/-- A batch size is accepted when it is positive, and lowered to what the service serves. -/
theorem clamp_eq_ok_iff {n : Int} {size : BatchSize} :
    (BatchSize.clamp (.int n)).2 = .ok size ↔
      1 ≤ n ∧ size.size = (min n maxBatchSize).toNat := by
  -- batch sizes are equal when their numbers are
  have hsame (size' : BatchSize) : size' = size ↔ size.size = size'.size := by
    cases size; cases size'
    simp only [BatchSize.mk.injEq]
    exact eq_comm
  simp only [BatchSize.clamp]
  split
  · next hlow =>
    constructor
    · nofun
    · intro h
      omega
  · split
    · rw [Except.ok.injEq, hsame]
      show size.size = maxBatchSize ↔ _
      omega
    · rw [Except.ok.injEq, hsame]
      show size.size = n.toNat ↔ _
      omega

/-- A limit is accepted from -1 on; -1 is none, and any other number the limit itself. -/
theorem limit_eq_ok_iff {n : Int} {limit : Limit} :
    Limit.ofData (.int n) = .ok limit ↔
      -1 ≤ n ∧ limit = if n = -1 then none else some n.toNat := by
  simp only [Limit.ofData]
  split
  · next hlow =>
    constructor
    · nofun
    · intro h
      omega
  · next hlow =>
    have hfrom : -1 ≤ n := by omega
    split <;> simp only [Except.ok.injEq, hfrom, true_and, eq_comm]

/-- Every positive batch size and every limit from -1 on is accepted. -/
theorem accepts {batch max : Int} (hpos : 1 ≤ batch) (hlow : -1 ≤ max) :
    (∃ size, (BatchSize.clamp (.int batch)).2 = .ok size) ∧
      ∃ limit, Limit.ofData (.int max) = .ok limit := by
  have hbounds : 1 ≤ (min batch maxBatchSize).toNat ∧
      (min batch maxBatchSize).toNat ≤ maxBatchSize := by
    have : maxBatchSize = 200 := rfl
    omega
  constructor
  · exact ⟨⟨_, hbounds⟩, clamp_eq_ok_iff.mpr ⟨hpos, rfl⟩⟩
  · exact ⟨_, limit_eq_ok_iff.mpr ⟨hlow, rfl⟩⟩

/-- Every search can be paged with them. -/
theorem made_of_search (s : Search) {options : PagerOptions} {batch max : Int}
    (hbatch : options.batchSize = .int batch) (hmax : options.maxItems = .int max)
    (hpos : 1 ≤ batch) (hlow : -1 ≤ max) : ∃ p, Made options p ∧ p.query = .search s := by
  obtain ⟨⟨size, hsize⟩, limit, hlimit⟩ := accepts hpos hlow
  have hmade : ∃ p, (ofSearch s.subject (.search s) options).2 = .ok p ∧ p.query = .search s := by
    simp only [ofSearch, if_true, hbatch, hmax, hsize, hlimit]
    exact ⟨_, rfl, rfl⟩
  obtain ⟨p, hp, hquery⟩ := hmade
  exact ⟨p, Or.inl ⟨s.subject, .search s, hp⟩, hquery⟩

/-- The articles of every event can be paged with them, in any languages that are accepted. -/
theorem made_of_event {uri languages : Data} {event : Lookup} {options : PagerOptions}
    {batch max : Int} (hevent : Lookup.make uri (.other (.data .null)) = .ok event)
    (hlanguages : languagesOf options.languages = .ok languages)
    (hbatch : options.batchSize = .int batch) (hmax : options.maxItems = .int max)
    (hpos : 1 ≤ batch) (hlow : -1 ≤ max) :
    ∃ p l, Made options p ∧ p.query = .lookup l ∧ l.uri = event.uri := by
  obtain ⟨⟨size, hsize⟩, limit, hlimit⟩ := accepts hpos hlow
  have hmade : ∃ p l, (ofEvent uri options).2 = .ok p ∧ p.query = .lookup l ∧
      l.uri = event.uri := by
    simp only [ofEvent, hlanguages, hbatch, hmax, hsize, hevent, hlimit]
    exact ⟨_, _, rfl, rfl, rfl⟩
  obtain ⟨p, l, hp, hquery⟩ := hmade
  exact ⟨p, l, Or.inr ⟨uri, hp⟩, hquery⟩

/-- **The values that a pager takes from its options**: the batch size up to what the service
    serves, and the limit, if there is one. -/
theorem Made.values {options : PagerOptions} {p : Pager} (made : Made options p) {batch max : Int}
    (hbatch : options.batchSize = .int batch) (hmax : options.maxItems = .int max) :
    p.listing.count = (min batch maxBatchSize).toNat ∧ -1 ≤ max ∧
      p.limit = if max = -1 then none else some max.toNat := by
  rcases made with ⟨subject, query, hp⟩ | ⟨uri, hp⟩
  · cases query with
    | lookup l => cases hp
    | search s =>
      simp only [ofSearch] at hp
      split at hp
      · simp only [bind_eq_ok_iff, hbatch, hmax] at hp
        obtain ⟨size, hsize, limit, hlimit, hp⟩ := hp
        cases hp
        exact ⟨(clamp_eq_ok_iff.mp hsize).2, limit_eq_ok_iff.mp hlimit⟩
      · cases hp
  · simp only [ofEvent] at hp
    split at hp
    · cases hp
    · simp only [bind_eq_ok_iff, hbatch, hmax] at hp
      obtain ⟨size, hsize, lookup, -, limit, hlimit, hp⟩ := hp
      cases hp
      exact ⟨(clamp_eq_ok_iff.mp hsize).2, limit_eq_ok_iff.mp hlimit⟩

end NewsSearch.Pager
