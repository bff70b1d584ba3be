import NewsSearch.Proofs.Query.FlatModifiers

/-!
Modifiers that nobody looks at.

A modifier says where or how widely the values of a field are to be looked for.  Where something is
given for the field, the modifier reaches the conditions of the field and those alone
(`FlatModifiers`).  Where nothing is given there is no condition that it could reach, and nothing
ever looks at it: with any other value, or with none, the parameters are accepted just the same and
make the same tree.  The reader of documents is stricter, it refuses a modifier without its field.

That the value does not matter is shown by changing it (`Params.put`) and following what is read.

1. The parameters for modifiers have names of their own: none of them is that of a field
   (`param_ne_modifierParam`), of another modifier or of the same one on the other side
   (`modifierParam_inj`), or of anything else that a search takes (`modifierParam_ne`).  So changing
   one of them changes nothing else that is looked up.
2. A field for which something is given finds its own modifiers as before (`modifierFor_put`).  A
   field for which nothing is given is passed over, whatever its modifiers are
   (`coerce_unpopulated`).
3. Hence the parts of all fields are the same, by induction over the fields (`parts_put`), and so is
   the tree (`compile_put`).
4. Whole searches take some parameters out before they compile the rest (`Search.ofParams_put`), and
   so do trees of populated fields (`base_put`).  Modifiers are not among those that are taken out.

Main statement: `modifiers_reach_or_unread`.  That an unread modifier may even have a value that is
none of the allowed ones is shown by `exists_unchecked_modifier`.
-/

namespace NewsSearch

namespace Params

/-- The parameters with an argument under a name, in place of what there was. -/
def put (name : String) (a : Argument) (params : Params) : Params :=
  (name, a) :: params.filter fun entry => entry.1 ≠ name

/-- What is given under another name is as before. -/
theorem getD_put_of_ne {name other : String} (hne : other ≠ name) (a : Argument)
    (params : Params) : Params.getD other (params.put name a) = Params.getD other params := by
  have hbeq : (other == name) = false := by simpa using hne
  have hrest : Params.getD other (params.filter fun entry => entry.1 ≠ name) =
      Params.getD other params :=
    Flat.getD_filter _ params fun _ => by simpa using hne
  rw [← hrest, Params.getD, Params.getD, Params.put, List.lookup_cons, hbeq]

/-- What is kept of all names but one does not depend on the argument under that one. -/
theorem filter_put_of_neg {name : String} {keep : String × Argument → Bool}
    (hkeep : ∀ a, keep (name, a) = false) (a : Argument) (params : Params) :
    (params.put name a).filter keep = params.filter keep := by
  -- the new entry is dropped, and the filter that removed the old ones adds nothing to what `keep`
  -- drops anyway
  rw [put, List.filter_cons_of_neg (by rw [hkeep a]; exact Bool.false_ne_true),
    List.filter_filter]
  refine List.filter_congr fun entry _ => ?_
  by_cases hname : entry.1 = name
  · have hnot : keep entry = false := by
      have hentry := hkeep entry.2
      rw [← hname] at hentry
      exact hentry
    rw [hnot, Bool.false_and]
  · simp [hname]

/-- What is kept of some names has the new argument when its name is one of them. -/
theorem filter_put_of_pos {name : String} {keep : String × Argument → Bool} {a : Argument}
    (hkeep : keep (name, a) = true) (params : Params) :
    (params.put name a).filter keep = Params.put name a (params.filter keep) := by
  rw [put, put, List.filter_cons_of_pos hkeep, List.filter_filter, List.filter_filter]
  -- the two filters of the rest may be applied in either order
  refine congrArg _ (List.filter_congr fun entry _ => ?_)
  exact Bool.and_comm _ _

/-- Whether some entry is kept is the same then. -/
theorem any_put {name : String} {keep : String × Argument → Bool}
    (hkeep : ∀ a, keep (name, a) = false) (a : Argument) (params : Params) :
    (params.put name a).any keep = params.any keep := by
  have hany (entries : Params) : entries.any keep = !(entries.filter keep).isEmpty := by
    rw [Bool.eq_iff_iff]
    simp
  rw [hany, hany, filter_put_of_neg hkeep]

end Params

namespace Flat

variable {side : Side} {params : Params} {f : Field}

/-! ## Names

There are few modifiers and few sides, so that names are compared by looking at all of them. -/

/-- The parameters for modifiers are none of those for values. -/
theorem param_ne_modifierParam (side here : Side) (modifier : String) : ∀ f ∈ Field.vocabulary,
    here.name f.param ≠ side.name (Side.modifierParam modifier) := by
  -- a modifier is one of two, so there are two names on each side to compare with
  unfold Side.modifierParam
  split <;> cases side <;> cases here <;> decide

/-- Each modifier has a parameter of its own on each side. -/
theorem modifierParam_inj {side here : Side} : ∀ m ∈ Field.modifierNames,
    ∀ n ∈ Field.modifierNames,
      here.name (Side.modifierParam n) = side.name (Side.modifierParam m) →
        here = side ∧ n = m := by
  cases side <;> cases here
  · -- on one side names differ with the modifier
    have hall : ∀ m ∈ Field.modifierNames, ∀ n ∈ Field.modifierNames,
        Side.wanted.name (Side.modifierParam n) = Side.wanted.name (Side.modifierParam m) →
          n = m := by decide
    exact fun m hm n hn h => ⟨rfl, hall m hm n hn h⟩
  · -- on two sides they differ anyway
    have hall : ∀ m ∈ Field.modifierNames, ∀ n ∈ Field.modifierNames,
        Side.ignored.name (Side.modifierParam n) ≠ Side.wanted.name (Side.modifierParam m) := by
      decide
    exact fun m hm n hn h => absurd h (hall m hm n hn)
  · have hall : ∀ m ∈ Field.modifierNames, ∀ n ∈ Field.modifierNames,
        Side.wanted.name (Side.modifierParam n) ≠ Side.ignored.name (Side.modifierParam m) := by
      decide
    exact fun m hm n hn h => absurd h (hall m hm n hn)
  · have hall : ∀ m ∈ Field.modifierNames, ∀ n ∈ Field.modifierNames,
        Side.ignored.name (Side.modifierParam n) = Side.ignored.name (Side.modifierParam m) →
          n = m := by decide
    exact fun m hm n hn h => ⟨rfl, hall m hm n hn h⟩

/-! ## One parameter is changed

From here on one modifier is given another value, on one side, and nothing is given for its field on
that side. -/

/-- Where nothing is given for a field the modifiers do not matter. -/
theorem coerce_unpopulated {a : Argument} {mode? : Option Mode}
    {modifiers : List (String × Argument)} {part : Option Node}
    (h : f.coerce a mode? modifiers = .ok part) (hempty : a.isPopulated = false)
    (others : List (String × Argument)) : f.coerce a mode? others = .ok part := by
  simp only [Field.coerce, bind_eq_ok_iff] at h ⊢
  obtain ⟨v, hv, h⟩ := h
  refine ⟨v, hv, ?_⟩
  -- the modifiers are looked at only when there is something to attach them to
  rcases classify_cases hv with ⟨rfl, -⟩ | ⟨hfull, -⟩
  · exact h
  · rw [hempty] at hfull
    cases hfull

/-- What is given for a field does not depend on the modifiers. -/
theorem given_put (here : Side) {g : Field} (hg : g ∈ Field.vocabulary) (modifier : String)
    (a : Argument) :
    here.given (params.put (side.name (Side.modifierParam modifier)) a) g = here.given params g :=
  Params.getD_put_of_ne (param_ne_modifierParam side here modifier g hg) a params

section Unread

variable {modifier : String} (hf : f ∈ Field.vocabulary) (hmodifier : f.modifier = some modifier)
  (a : Argument)

include hf hmodifier

/-- A modifier on one side is none of another field and none on the other side. -/
theorem modifierFor_put {here : Side} {g : Field} (hg : g ∈ Field.vocabulary)
    (hother : ¬(here = side ∧ g = f)) :
    modifierFor here.modifierParams (params.put (side.name (Side.modifierParam modifier)) a) g =
      modifierFor here.modifierParams params g := by
  rw [modifierFor_eq here _ hg, modifierFor_eq here _ hg]
  cases hname : g.modifier with
  | none => rfl
  | some name =>
    have hne : here.name (Side.modifierParam name) ≠ side.name (Side.modifierParam modifier) := by
      -- were the names the same, the modifier and the side would be, and with them the field
      intro hsame
      obtain ⟨hside, rfl⟩ := modifierParam_inj modifier (Field.mem_modifierNames hf hmodifier)
        name (Field.mem_modifierNames hg hname) hsame
      exact hother ⟨hside, eq_of_modifier g hg f hf hname hmodifier⟩
    simp only [Params.getD_put_of_ne hne]

variable (hempty : (side.given params f).isPopulated = false)

include hempty

/-- What is accepted for a field is accepted with any value of a modifier whose field is given
    nothing.  Either this is that field on that side, where modifiers do not matter, or it finds its
    own modifiers as before. -/
theorem coerce_put (here : Side) {g : Field} (hg : g ∈ Field.vocabulary) {mode? : Option Mode}
    {part : Option Node}
    (h : g.coerce (here.given params g) mode? (modifierFor here.modifierParams params g) =
      .ok part) :
    g.coerce (here.given (params.put (side.name (Side.modifierParam modifier)) a) g) mode?
      (modifierFor here.modifierParams (params.put (side.name (Side.modifierParam modifier)) a) g) =
      .ok part := by
  rw [given_put here hg]
  cases hgiven : (here.given params g).isPopulated with
  | false => exact coerce_unpopulated h hgiven _
  | true =>
    -- this is another field, or the same one on the other side
    have hother : ¬(here = side ∧ g = f) := by
      rintro ⟨rfl, rfl⟩
      rw [hempty] at hgiven
      cases hgiven
    rw [modifierFor_put hf hmodifier a hg hother]
    exact h

/-- So are the parts of fields, by induction over them. -/
theorem parts_put {fields : List Field} (hfields : ∀ g ∈ fields, g ∈ Field.vocabulary)
    {nodes : List Node × List Node} (h : parts params fields = .ok nodes) :
    parts (params.put (side.name (Side.modifierParam modifier)) a) fields = .ok nodes := by
  induction fields generalizing nodes with
  | nil => exact h
  | cons g rest ih =>
    obtain ⟨hg, hrest⟩ := List.forall_mem_cons.mp hfields
    simp only [parts, bind_eq_ok_iff] at h ⊢
    obtain ⟨positive, hpositive, negative, hnegative, others, hothers, hnodes⟩ := h
    -- what is wanted and what is left out of this field, each accepted as before
    refine ⟨positive, coerce_put hf hmodifier a hempty .wanted hg hpositive, negative, ?_,
      others, ih hrest hothers, hnodes⟩
    unfold ignored at hnegative ⊢
    split at hnegative
    · next hmulti =>
      rw [if_pos hmulti]
      exact coerce_put hf hmodifier a hempty .ignored hg hnegative
    · next hsingle =>
      rw [if_neg hsingle]
      exact hnegative

/-- The tree of a search is the same with any value of such a modifier. -/
theorem compile_put {scope : Scope} {root : Option Node} (h : compile scope params = .ok root)
    (hname : side.name (Side.modifierParam modifier) ∈ allowedNames scope) :
    compile scope (params.put (side.name (Side.modifierParam modifier)) a) = .ok root := by
  simp only [compile, bind_eq_ok_iff] at h ⊢
  obtain ⟨_, hnames, nodes, hparts, hroot⟩ := h
  -- the parts are the same, and the new name is one of those allowed
  refine ⟨(), ?_, nodes, parts_put hf hmodifier a hempty (fun _ hg => hg) hparts, hroot⟩
  rw [checkNames_eq_ok_iff] at hnames ⊢
  refine List.forall_mem_cons.mpr ⟨hname, fun entry hentry => ?_⟩
  exact hnames entry (List.mem_of_mem_filter hentry)

end Unread

/-! ## Searches and trees -/

/-- Searches may be given the modifiers of both sides, trees those of what is wanted. -/
theorem modifierParam_allowed (side : Side) (modifier : String) (subject : Subject) :
    side.name (Side.modifierParam modifier) ∈ allowedNames subject.scope := by
  unfold Side.modifierParam
  split <;> cases side <;> cases subject <;> decide

/-- A tree may be given the modifiers of what is wanted. -/
theorem modifierParam_allowed_base (modifier : String) :
    Side.wanted.name (Side.modifierParam modifier) ∈ allowedNames ⟨false, true⟩ := by
  unfold Side.modifierParam
  split <;> decide

/-- It may not be given those of what is left out. -/
theorem ignored_modifierParam_not_allowed (modifier : String) :
    Side.ignored.name (Side.modifierParam modifier) ∉ allowedNames ⟨false, true⟩ := by
  unfold Side.modifierParam
  split <;> decide

/-- A modifier is given under a name of its own. -/
theorem modifierParam_ne (side : Side) (modifier : String) :
    side.name (Side.modifierParam modifier) ≠ Search.offerParam ∧
      side.name (Side.modifierParam modifier) ≠ "self" ∧
      side.name (Side.modifierParam modifier) ≠ excludeParam := by
  unfold Side.modifierParam
  split <;> cases side <;> decide

/-- Nor does a tree to leave out matter to what a field is given, or to its modifiers. -/
theorem given_withoutExclude (side : Side) (hf : f ∈ Field.vocabulary) :
    side.given (params.filter fun entry => entry.1 ≠ excludeParam) f = side.given params f := by
  have hne : ∀ f ∈ Field.vocabulary, side.name f.param ≠ excludeParam := by
    cases side <;> decide
  exact getD_filter _ params fun _ => by simpa using hne f hf

/-- Nor does it matter to what is given for a modifier. -/
theorem givenModifier_withoutExclude (side : Side) (modifier : String) :
    side.givenModifier (params.filter fun entry => entry.1 ≠ excludeParam) modifier =
      side.givenModifier params modifier := by
  obtain ⟨-, -, hne⟩ := modifierParam_ne side modifier
  exact getD_filter _ params fun _ => by simpa using hne

/-- The filters do not matter to that either. -/
theorem givenModifier_withoutFilters (side : Side) (modifier : String) :
    side.givenModifier (withoutFilters params) modifier = side.givenModifier params modifier := by
  have hfilter := modifierParam_not_filter side modifier
  exact getD_filter _ params fun _ => by simp [hfilter]

end Flat

/-- A search is the same with any value of a modifier whose field is given nothing on its side. -/
theorem Search.ofParams_put {side : Flat.Side} {params : Params} {f : Field} {modifier : String}
    (hf : f ∈ Field.vocabulary) (hmodifier : f.modifier = some modifier)
    (hempty : (side.given params f).isPopulated = false) (a : Argument) {subject : Subject}
    {offer : Offer} {s : Search} (h : Search.ofParams subject params offer = .ok s) :
    Search.ofParams subject (params.put (side.name (Flat.Side.modifierParam modifier)) a) offer =
      .ok s := by
  obtain ⟨hoffer, hself, -⟩ := Flat.modifierParam_ne side modifier
  have hfilter := Flat.modifierParam_not_filter side modifier
  have hallowed := Flat.modifierParam_allowed side modifier subject
  generalize hname : side.name (Flat.Side.modifierParam modifier) = name at *
  simp only [Search.ofParams, check_eq_ok_iff, bind_eq_ok_iff] at h ⊢
  obtain ⟨hoffered, htaken, hfilters, filters, hread, root, hroot, hrest⟩ := h
  -- the checks of names before compiling do not see the change; the filters among the parameters
  -- are read without it, and the rest is compiled with it
  rw [Params.any_put (by simpa using hoffer), Params.any_put (by simpa using hself),
    Params.filter_put_of_neg (by simp [hfilter]), Params.filter_put_of_pos (by simp [hfilter])]
  refine ⟨hoffered, htaken, hfilters, filters, hread, root, ?_, hrest⟩
  -- the filters among the parameters do not matter to what the field is given
  rw [← Flat.given_withoutFilters side hf] at hempty
  rw [← hname] at hallowed ⊢
  exact Flat.compile_put hf hmodifier a hempty hroot hallowed

/-- So is a tree of populated fields. -/
theorem Flat.base_put {params : Params} {f : Field} {modifier : String}
    (hf : f ∈ Field.vocabulary) (hmodifier : f.modifier = some modifier)
    (hempty : (Side.wanted.given params f).isPopulated = false) (a : Argument)
    {exclude : Argument} {n : Node} (h : base params exclude = .ok n) :
    base (params.put (Side.wanted.name (Side.modifierParam modifier)) a) exclude = .ok n := by
  obtain ⟨-, -, hexclude⟩ := modifierParam_ne .wanted modifier
  have hallowed := modifierParam_allowed_base modifier
  generalize hname : Side.wanted.name (Side.modifierParam modifier) = name at *
  simp only [base, check_eq_ok_iff, bind_eq_ok_iff] at h ⊢
  obtain ⟨htaken, root, hroot, hrest⟩ := h
  -- the tree to leave out is looked up under another name, and what is compiled has the change
  rw [Params.any_put (by simpa using hexclude), Params.filter_put_of_pos (by simpa using hexclude),
    Params.getD_put_of_ne hexclude.symm]
  refine ⟨htaken, root, ?_, hrest⟩
  rw [← given_withoutExclude .wanted hf] at hempty
  rw [← hname] at hallowed ⊢
  exact compile_put hf hmodifier a hempty hroot hallowed

/-! ## All modifiers

What is left is to put both cases together: fields that are given something, and fields that are
not. -/

/-- A text that is allowed is one of the places for keywords. -/
theorem AllowedModifier.place {s : String} (h : AllowedModifier keywordLocation (.text s)) :
    s ∈ keywordLocations := by
  generalize hname : keywordLocation = name at h
  generalize hvalue : Data.text s = v at h
  cases h with
  | location known =>
    cases hvalue
    exact known
  | subcategories b => cases hvalue

/-- A tree without the matches of another is the tree alone, or joined with the negation. -/
theorem Node.without_forms {n m : Node} {exclude : Argument} (h : n.without exclude = .ok m) :
    m = n ∨ ∃ excluded, m = .all [n, .not excluded] := by
  unfold without at h
  split at h
  · cases h
    exact Or.inl rfl
  · obtain ⟨negation, hnegation, rfl⟩ := map_eq_ok_iff.mp h
    unfold negate at hnegation
    split at hnegation
    · cases hnegation
      exact Or.inr ⟨_, rfl⟩
    · cases hnegation

namespace Flat

/-- Parameters that give the same to the fields and their modifiers have modifiers that reach the
    same. -/
theorem ModifiersReach.congr {params others : Params} {query : Data}
    (h : ModifiersReach others query)
    (hgiven : ∀ side : Side, ∀ f ∈ Field.vocabulary, side.given others f = side.given params f)
    (hmodifier : ∀ (side : Side) (modifier : String),
      side.givenModifier others modifier = side.givenModifier params modifier) :
    ModifiersReach params query := by
  constructor
  · intro side f hf modifier hname hfull hne
    rw [← hgiven side f hf] at hfull
    rw [← hmodifier side modifier] at hne ⊢
    exact h.carried side f hf modifier hname hfull hne
  · intro side c hc m hm
    rw [← hmodifier side m.1]
    exact h.alone side c hc m hm

/-- A tree of populated fields is one that is compiled, perhaps without the matches of another. -/
theorem base_forms {params : Params} {exclude : Argument} {n : Node}
    (h : base params exclude = .ok n) :
    ∃ root, compile ⟨false, true⟩ (params.filter fun entry => entry.1 ≠ excludeParam) =
        .ok (some root) ∧
      (n = root ∨ ∃ excluded, n = .all [root, .not excluded]) := by
  simp only [base, check_eq_ok_iff, bind_eq_ok_iff] at h
  obtain ⟨-, root, hroot, hwithout⟩ := h
  cases root with
  | none => cases hwithout
  | some root =>
    exact ⟨root, hroot, Node.without_forms hwithout⟩

/-- **Modifiers reach their field or are not read.**  In an accepted search a modifier reaches the
    conditions of its field on its side, and those alone, unless nothing is given for the field
    there: then it is not looked at, and the search is the same with any other value of it.  So it
    is with trees of populated fields, which have no modifiers for what is left out. -/
theorem modifiers_reach_or_unread {params : Params}
    (hparams : ∀ p ∈ params, ∀ mode, p.2 ≠ .wrapped mode []) :
    (∀ (subject : Subject) (offer : Offer) (s : Search),
      Search.ofParams subject params offer = .ok s →
        (∃ query, s.document.get? queryKey = some query ∧ ModifiersReach params query) ∧
        ∀ side : Side, ∀ f ∈ Field.vocabulary, ∀ modifier, f.modifier = some modifier →
          (side.given params f).isPopulated = false → ∀ a,
            Search.ofParams subject (params.put (side.name (Side.modifierParam modifier)) a) offer =
              .ok s) ∧
    ∀ (exclude : Argument) (n : Node), base params exclude = .ok n →
      (∃ root, (n = root ∨ ∃ excluded, n = .all [root, .not excluded]) ∧
        ModifiersReach params (.map root.document)) ∧
      (∀ modifier, Side.ignored.givenModifier params modifier = .data .null) ∧
      ∀ f ∈ Field.vocabulary, ∀ modifier, f.modifier = some modifier →
        (Side.wanted.given params f).isPopulated = false → ∀ a,
          base (params.put (Side.wanted.name (Side.modifierParam modifier)) a) exclude = .ok n := by
  constructor
  · -- searches: what is compiled are the parameters without the filters
    intro subject offer s h
    have hreach := modifiersReach_of_compile
      (fun p hp => hparams p (List.mem_of_mem_filter hp)) (Search.ofParams_root h)
    refine ⟨⟨_, ParsedDocument.get?_compiled_query s.root s.filters.document, ?_⟩, ?_⟩
    · exact hreach.congr (fun side f hf => given_withoutFilters side hf)
        givenModifier_withoutFilters
    · intro side f hf modifier hmodifier hempty a
      exact Search.ofParams_put hf hmodifier hempty a h
  · -- trees: what is compiled are the parameters without the tree to leave out
    intro exclude n h
    obtain ⟨root, hroot, hforms⟩ := base_forms h
    have hreach := modifiersReach_of_compile
      (fun p hp => hparams p (List.mem_of_mem_filter hp)) hroot
    refine ⟨⟨root, hforms, ?_⟩, ?_, ?_⟩
    · exact hreach.congr (fun side f hf => given_withoutExclude side hf)
        givenModifier_withoutExclude
    · intro modifier
      -- a modifier for what is left out would have a name that is not allowed
      simp only [compile, bind_eq_ok_iff] at hroot
      obtain ⟨_, hnames, -⟩ := hroot
      rw [← givenModifier_withoutExclude]
      exact getD_of_not_allowed hnames (ignored_modifierParam_not_allowed modifier)
    · intro f hf modifier hmodifier hempty a
      exact base_put hf hmodifier hempty a h

/-- A keyword wanted in titles, and no category for the subcategories. -/
def hailInTitles : Params := [
  ("keywords", .data (.text "hail")),
  ("keywords_loc", .data (.text "title")),
  ("category_include_sub", .data (.text "often"))]

/-- The keyword is looked for in titles, and the other modifier may be anything. -/
theorem modifiers_reach_or_unread_hail :
    ∃ s n, Search.ofParams .articles hailInTitles (.other (.data .null)) = .ok s ∧
      base hailInTitles (.data .null) = .ok n ∧
      (∃ query, s.document.get? queryKey = some query ∧
        (∃ c, (Side.wanted, c) ∈ conditionsIn .wanted query ∧ c.field = "keyword") ∧
        ∀ c, (Side.wanted, c) ∈ conditionsIn .wanted query → c.field = "keyword" →
          c.modifiers = [(keywordLocation, .text "title")]) ∧
      (∀ a, Search.ofParams .articles (hailInTitles.put "category_include_sub" a)
        (.other (.data .null)) = .ok s) ∧
      ∀ a, base (hailInTitles.put "category_include_sub" a) (.data .null) = .ok n := by
  have hparams : ∀ p ∈ hailInTitles, ∀ mode, p.2 ≠ .wrapped mode [] := by
    simp [hailInTitles]
  obtain ⟨s, hs⟩ : ∃ s, Search.ofParams .articles hailInTitles (.other (.data .null)) = .ok s :=
    ok_of_isSome (by decide +kernel)
  obtain ⟨n, hn⟩ : ∃ n, base hailInTitles (.data .null) = .ok n :=
    ok_of_isSome (by decide +kernel)
  have hkeyword : Field.several "keyword" "keywords" .token .all (some keywordLocation) ∈
      Field.vocabulary := List.mem_cons_self
  have hcategory : Field.several "categoryUri" "category_uri" .uri .any
      (some includeSubcategories) ∈ Field.vocabulary := by decide
  obtain ⟨hsearch, hbase⟩ := modifiers_reach_or_unread hparams
  obtain ⟨⟨query, hquery, hreach⟩, hunread⟩ := hsearch _ _ s hs
  obtain ⟨-, -, hunreadBase⟩ := hbase _ n hn
  obtain ⟨d, hd, -, hsome, hall⟩ :=
    hreach.carried .wanted _ hkeyword keywordLocation rfl rfl (fun h => nomatch h)
  cases hd
  exact ⟨s, n, hs, hn, ⟨query, hquery, hsome, hall⟩,
    hunread .wanted _ hcategory includeSubcategories rfl rfl,
    hunreadBase _ hcategory includeSubcategories rfl rfl⟩

/-- A place for keywords without a keyword is not looked at, although it is none of the places.  The
    same is refused in a document. -/
theorem exists_unchecked_modifier :
    ∃ n, base [("lang", .data (.text "eng")), ("keywords_loc", .data (.text "bogus"))]
        (.data .null) = .ok n ∧
      (∀ c ∈ n.conditions, c.modifiers = []) ∧
      ¬AllowedModifier keywordLocation (.text "bogus") ∧
      (ParsedDocument.parse (.map [(.text queryKey, .map [(.text "lang", .text "eng"),
        (.text keywordLocation, .text "bogus")])])).isOk = false := by
  have hfound : (base [("lang", .data (.text "eng")), ("keywords_loc", .data (.text "bogus"))]
      (.data .null)).toOption.map (fun n => n.conditions.all (·.modifiers.isEmpty)) =
        some true := by decide +kernel
  obtain ⟨n, hn, hnone⟩ := ok_of_toOption_map hfound
  refine ⟨n, hn, ?_, ?_, by decide +kernel⟩
  · simpa using hnone
  · intro hallowed
    have hknown : "bogus" ∉ keywordLocations := by decide
    exact hknown hallowed.place

end Flat

end NewsSearch
