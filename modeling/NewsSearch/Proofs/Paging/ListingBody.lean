import NewsSearch.Proofs.Paging.Bodies

/-!
The body for a listing, key by key.

A body has what the caller set under a key, or else what the listing has there
(`Listing.get?_listingBody`).  Of the parameters of a listing, three are decided by settings: the
count, and two about the order.  Each of them has an equation (`standing_count`,
`standing_ascending`, `standing_sortBy`).  Under all other keys the bodies for two listings of a
kind have the same on the same page (`Listing.standing_eq`), since the only other parameter is the
number of the page (`Listing.get?_pageParams_rest`).

Bodies are compared as mappings with texts as keys, in which the order of the keys does not matter:
they have the same entries when the same stands under every text (`Record.sameEntries_iff`).

Main statement: `Listing.get?_listingBody`.
-/

namespace NewsSearch

/-! ## Mappings in any order

Mappings keep the order of their keys, but nobody who reads a body asks for it. -/

namespace Record

/-- The entries of a mapping but the one under the text. -/
def without (key : String) (r : Record) : Record := r.filter fun e => !e.1.same (.text key)

/-- The mappings have the same entries, in whatever order. -/
def SameEntries (a b : Record) : Prop := ∀ e, e ∈ a ↔ e ∈ b

/-- All keys of the mapping are texts. -/
def HasTextKeys (r : Record) : Prop := ∀ e ∈ r, ∃ name, e.1 = .text name

/-- Under the key that is left out stands nothing, and under any other what stood there. -/
theorem get?_without {key name : String} {r : Record} :
    (r.without key).get? name = if key = name then none else r.get? name := by
  simp only [get?, without]
  induction r with
  | nil => simp
  | cons e rest ih =>
    obtain ⟨k, v⟩ := e
    cases hkey : k.same (.text key) with
    | true =>
      rw [List.filter_cons_of_neg (by simp [hkey]), ih, Scalar.same_text_iff.mp hkey]
      by_cases hname : key = name <;> simp [find?, hname]
    | false =>
      rw [List.filter_cons_of_pos (by simp [hkey]), find?, find?, ih]
      by_cases hname : key = name
      · subst hname
        simp [hkey]
      · simp [hname]

/-- What is set under a key goes with it. -/
theorem without_set {key : String} {value : Data} {r : Record} :
    (r.set key value).without key = r.without key := by
  simp only [set, without]
  induction r with
  | nil => simp [insert]
  | cons e rest ih =>
    obtain ⟨k, v⟩ := e
    cases hkey : k.same (.text key) with
    | true => simp [insert, hkey]
    | false =>
      rw [insert, hkey, if_neg Bool.false_ne_true, List.filter_cons, List.filter_cons, ih]

/-- Updating one mapping with texts as keys by another gives one more. -/
theorem HasTextKeys.update {r changes : Record} (hr : r.HasTextKeys) (h : changes.HasTextKeys) :
    (r.update changes).HasTextKeys := by
  intro e he
  rcases key_of_mem_update he with ⟨d, hd, hkey⟩ | ⟨p, hp, hkey⟩
  · rw [← hkey]
    exact hr d hd
  · rw [← hkey]
    exact h p hp

/-- A mapping that is made from names has texts as keys. -/
theorem hasTextKeys_ofTexts (pairs : List (String × Data)) : (ofTexts pairs).HasTextKeys :=
  List.forall_mem_map.mpr fun p _ => ⟨p.1, rfl⟩

/-- Leaving out an entry gives no key twice. -/
theorem KeysOnce.without {r : Record} (h : r.KeysOnce) (key : String) : (r.without key).KeysOnce :=
  h.sublist List.filter_sublist

/-- And no new keys. -/
theorem HasTextKeys.without {r : Record} (h : r.HasTextKeys) (key : String) :
    (r.without key).HasTextKeys := fun e he => h e (List.mem_of_mem_filter he)

/-- Mappings with texts as keys have the same entries when the same stands under every text. -/
theorem sameEntries_iff {a b : Record} (ha : a.KeysOnce) (hb : b.KeysOnce) (hatexts : a.HasTextKeys)
    (hbtexts : b.HasTextKeys) : SameEntries a b ↔ ∀ name, a.get? name = b.get? name := by
  constructor
  · intro hsame name
    refine Option.ext fun v => ?_
    rw [ha.get?_eq_some_iff, hb.get?_eq_some_iff]
    exact hsame (.text name, v)
  · intro hsame e
    obtain ⟨k, v⟩ := e
    have hentry (name : String) : (Scalar.text name, v) ∈ a ↔ (Scalar.text name, v) ∈ b := by
      rw [← ha.get?_eq_some_iff, ← hb.get?_eq_some_iff, hsame]
    constructor
    · intro hmem
      obtain ⟨name, rfl⟩ := hatexts _ hmem
      exact (hentry name).mp hmem
    · intro hmem
      obtain ⟨name, rfl⟩ := hbtexts _ hmem
      exact (hentry name).mpr hmem

end Record

/-! ## Bodies for listings

What is set over the parameters of the listing hides them, key by key. -/

/-- The body for a listing of the matches of a search, when this is the text of its query. -/
def listingBody (l : Listing) (text : String) (further : Record) : Record :=
  (Record.ofTexts [("query", .text text), ("resultType", .text l.kind.sectionType)]).update
    ((l.pageParams l.orderParams l.page).update further)

/-- The names of the parameters of a listing that settings decide about end in these. -/
def settingEnds : List String := ["Count", "SortByAsc", "SortBy"]

namespace Listing

variable (l : Listing) (text : String)

/-- What the body for the listing has under a name when nothing is set over it. -/
def standing (name : String) : Option Data :=
  ((l.pageParams l.orderParams l.page).get? name).or
    (Record.get? name
      (Record.ofTexts [("query", .text text), ("resultType", .text l.kind.sectionType)]))

/-- A parameter that settings decide about is what the listing has for it. -/
theorem standing_parameter {suffix : String} (hsuffix : suffix ∈ settingEnds) :
    l.standing text (l.kind.sectionType ++ suffix) =
      (("Page", Data.int l.page) :: ("Count", .int l.count) :: l.orderParams).lookup suffix := by
  have hall : ∀ suffix ∈ settingEnds, l.kind.sectionType ++ suffix ≠ "query" ∧
      l.kind.sectionType ++ suffix ≠ "resultType" := by
    cases l.kind <;> decide
  have hnames := hall suffix hsuffix
  have hbase : Record.get? (l.kind.sectionType ++ suffix) (Record.ofTexts
      [("query", .text text), ("resultType", .text l.kind.sectionType)]) = none := by
    simp [Record.ofTexts, Record.get?, Record.find?, Ne.symm hnames.1, Ne.symm hnames.2]
  rw [standing, get?_pageParams, hbase, Option.or_none]

/-- The count is that of the listing. -/
theorem standing_count :
    l.standing text (l.kind.sectionType ++ "Count") = some (.int l.count) := by
  rw [l.standing_parameter text (by decide)]
  rfl

/-- So is the direction of the order. -/
theorem standing_ascending :
    l.standing text (l.kind.sectionType ++ "SortByAsc") = some l.ascending := by
  rw [l.standing_parameter text (by decide), orderParams]
  rfl

/-- There is no order where none is given. -/
theorem standing_sortBy :
    l.standing text (l.kind.sectionType ++ "SortBy") =
      if l.sortBy.truthy = true then some l.sortBy else none := by
  rw [l.standing_parameter text (by decide), orderParams]
  split <;> rfl

/-- Apart from those, the only parameter of the page is its number. -/
theorem get?_pageParams_rest {name : String}
    (h : name ∉ settingEnds.map (l.kind.sectionType ++ ·)) :
    (l.pageParams l.orderParams l.page).get? name =
      if name = l.kind.sectionType ++ "Page" then some (.int l.page) else none := by
  by_cases hpage : name = l.kind.sectionType ++ "Page"
  · rw [if_pos hpage, hpage, get?_pageParams_page]
  · rw [if_neg hpage]
    refine get?_pageParams_absent fun suffix hsuffix heq => ?_
    have hend : suffix ∈ "Page" :: settingEnds := by
      rcases l.names_orderParams with horder | horder <;> rw [horder] at hsuffix
      · exact List.mem_append_left ["SortBy"] hsuffix
      · exact hsuffix
    rcases List.mem_cons.mp hend with rfl | hend
    · exact hpage heq
    · rw [heq] at h
      exact h (List.mem_map_of_mem hend)

variable {l text} in
/-- Two listings of a kind that stand on the same page have the same under every other name. -/
theorem standing_eq {l' : Listing} (hkind : l'.kind = l.kind) (hpage : l'.page = l.page)
    {name : String} (h : name ∉ settingEnds.map (l.kind.sectionType ++ ·)) :
    l'.standing text name = l.standing text name := by
  have h' : name ∉ settingEnds.map (l'.kind.sectionType ++ ·) := by
    rw [hkind]
    exact h
  rw [standing, standing, l.get?_pageParams_rest h, l'.get?_pageParams_rest h', hkind, hpage]

variable {further : Record}

/-- **Under a name stands what is set over the parameters, or else what the listing has there.** -/
theorem get?_listingBody (honce : further.KeysOnce) (name : String) :
    (listingBody l text further).get? name = (further.get? name).or (l.standing text name) := by
  have hnone : ([] : List (String × Data)).map (·.1) = [] := rfl
  have hnames := l.names_sublist (Or.inl hnone)
  rw [List.append_nil] at hnames
  rw [listingBody, Record.get?_update_update (keysOnce_pageParams hnames),
    Record.ofPairs_eq_self honce]
  rfl

/-- A body has each key once. -/
theorem keysOnce_listingBody : (listingBody l text further).KeysOnce := by
  refine Record.KeysOnce.update (Record.keysOnce_ofTexts ?_)
  simp

/-- Its keys are texts when those that the caller set are. -/
theorem hasTextKeys_listingBody (htexts : further.HasTextKeys) :
    (listingBody l text further).HasTextKeys :=
  (Record.hasTextKeys_ofTexts _).update ((Record.hasTextKeys_ofTexts _).update htexts)

end Listing

end NewsSearch
