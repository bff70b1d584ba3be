import Mathlib.Data.List.Forall2
import NewsSearch.Paging.Dispatcher
import NewsSearch.Proofs.Text.Numeral

/-!
What decoding keeps of a response.

A response is loosely typed, and decoding says nothing about most of what may be wrong with it: what
is no object is no section, what is no list has no items, what is no number counts nothing.  This
file says what is kept, without the decoder: of a counter (`Counter`), of one section
(`ResponseSection.Keeps`) and of a whole body (`Query.SectionsAt`, `Response.Keeps`).

Two kinds of values are not passed over but break the decoding of the whole body:

* a counter that is a text of digits and nevertheless no integer, because a digit has no value or
  because there are too many of them (`Unreadable`);
* an error that counts as true and has an integer of too many digits in it, which cannot be put into
  words (`ResponseSection.Unspeakable`).

The argument goes up from one value to the body, and at each level there is one lemma of the same
form: either the decoder keeps what it should and nothing breaks, or it ends with a fault and
something does break, with that fault.

1. For a counter (`ResponseSection.counter?_ends`) the only case with something to decide is a text
   of digits.  Reading it as an integer goes by its digits: all have a value, and then their number
   counts, or one has none (`ResponseSection.counter?_digits`).
2. For an error there is `ResponseSection.reported_ends`.
3. For a section the four counters and the error are read one after the other
   (`ResponseSection.ofRecord_ends`).
4. For a response it is an induction on its entries, those that are no objects being passed over on
   both sides (`Response.ofRecord_ends`).

Both outcomes exclude each other at every level, so a body is decoded exactly when nothing in its
sections breaks.

Main statement: `Query.decode_ends`.
-/

namespace NewsSearch

open Text

/-! ## Counters -/

/-- The integer that a value counts, or none.  An integer counts itself, and a text counts what it
    denotes when it is a decimal numeral apart from blanks around it. -/
inductive Counter : Data → Option Int → Prop
  | given (n : Int) : Counter (.int n) (some n)
  | numeral {s : String} {n : Nat} (denotes : Denotes (trim s.toList) n) :
      Counter (.text s) (some n)
  | words {s : String} (nothing : ∀ n, ¬ Denotes (trim s.toList) n) : Counter (.text s) none
  | other {d : Data} (integer : ∀ n, d ≠ .int n) (text : ∀ s, d ≠ .text s) : Counter d none

/-- A value that should be a counter is a text of digits that is read as no integer. -/
inductive Unreadable : Data → Prop
  /-- One of the digits has no value. -/
  | sign {s : String} {c : Char} (digits : ∀ c ∈ trim s.toList, isDigit c = true)
      (mem : c ∈ trim s.toList) (sign : isDecimal c = false) : Unreadable (.text s)
  /-- There are more digits than an integer may have. -/
  | long {s : String} {n : Nat} (denotes : Denotes (trim s.toList) n)
      (length : digitLimit < (trim s.toList).length) : Unreadable (.text s)

/-- A numeral is made of digits. -/
theorem Text.Denotes.isDigits {cs : List Char} {n : Nat} (h : Denotes cs n) :
    isDigits cs = true := by
  have hdigits : ∀ c ∈ cs, isDigit c = true := fun c hc => by
    rw [isDigit, h.decimal c hc, Bool.true_or]
  rw [Text.isDigits, Bool.and_eq_true]
  exact ⟨by simpa using h.filled, List.all_eq_true.mpr hdigits⟩

/-- So is the text of an unreadable counter. -/
theorem Unreadable.isDigits {s : String} (h : Unreadable (.text s)) :
    Text.isDigits (trim s.toList) = true := by
  cases h with
  | @sign _ c hdigits hmem hsign =>
    rw [Text.isDigits, Bool.and_eq_true]
    exact ⟨by simpa using List.ne_nil_of_mem hmem, List.all_eq_true.mpr hdigits⟩
  | long hdenotes hlength => exact hdenotes.isDigits

namespace ResponseSection

/-- A text of digits is read as the number it denotes, unless it is unreadable. -/
theorem counter?_digits {s : String} (h : isDigits (trim s.toList) = true) :
    (∃ n, counter? (.text s) = .ok n ∧ Counter (.text s) n ∧ ¬ Unreadable (.text s)) ∨
      ∃ fault, counter? (.text s) = .error (.value (.integer fault)) ∧ Unreadable (.text s) := by
  have hok {n : Int} (hread : integerTo 10 (strip s) = .ok n) :
      counter? (.text s) = .ok (some n) := by
    simp only [counter?, toList_strip, h, if_true, hread]
  have herror {fault : IntegerFault} (hread : integerTo 10 (strip s) = .error fault) :
      counter? (.text s) = .error (.value (.integer fault)) := by
    simp only [counter?, toList_strip, h, if_true, hread]
  rw [Text.isDigits, Bool.and_eq_true, List.all_eq_true] at h
  obtain ⟨hfilled, hdigits⟩ := h
  by_cases hdecimal : ∀ c ∈ trim s.toList, isDecimal c = true
  · have hdenotes : Denotes (trim s.toList) (decimalNumber (trim s.toList)) :=
      ⟨by simpa using hfilled, hdecimal, rfl⟩
    have hread := integerTo_of_denotes (s := strip s) (by rwa [toList_strip])
    rw [toList_strip] at hread
    by_cases hlong : digitLimit < (trim s.toList).length
    · rw [if_pos hlong] at hread
      exact .inr ⟨_, herror hread, .long hdenotes hlong⟩
    · rw [if_neg hlong] at hread
      refine .inl ⟨_, hok hread, .numeral hdenotes, fun hunreadable => ?_⟩
      cases hunreadable with
      | sign _ hmem hsign =>
        rw [hdecimal _ hmem] at hsign
        cases hsign
      | long _ hlength => exact hlong hlength
  · push Not at hdecimal
    obtain ⟨c, hc, hsign⟩ := hdecimal
    have hsign : isDecimal c = false := by simpa using hsign
    obtain ⟨fault, hread⟩ := integerTo_of_sign (s := strip s) (by rwa [toList_strip])
      (by rwa [toList_strip]) hsign
    exact .inr ⟨fault, herror hread, .sign hdigits hc hsign⟩

/-- A counter is read as what it counts, unless it is unreadable. -/
theorem counter?_ends (d : Data) :
    (∃ n, counter? d = .ok n ∧ Counter d n ∧ ¬ Unreadable d) ∨
      ∃ fault, counter? d = .error (.value (.integer fault)) ∧ Unreadable d := by
  by_cases hint : ∃ n, d = .int n
  · obtain ⟨n, rfl⟩ := hint
    exact .inl ⟨some n, rfl, .given n, fun h => by cases h⟩
  by_cases htext : ∃ s, d = .text s
  · obtain ⟨s, rfl⟩ := htext
    by_cases hdigits : isDigits (trim s.toList) = true
    · exact counter?_digits hdigits
    · have hread : counter? (.text s) = .ok none := by
        simp only [counter?, toList_strip, hdigits, Bool.false_eq_true, if_false]
      exact .inl ⟨none, hread, .words fun n h => hdigits h.isDigits, fun h => hdigits h.isDigits⟩
  · have hread : counter? d = .ok none := by
      unfold counter?
      split
      · next n => exact absurd ⟨n, rfl⟩ hint
      · next s => exact absurd ⟨s, rfl⟩ htext
      · rfl
    have hother : Counter d none :=
      .other (fun n h => hint ⟨n, h⟩) fun s h => htext ⟨s, h⟩
    refine .inl ⟨none, hread, hother, fun h => ?_⟩
    cases h with
    | sign => exact htext ⟨_, rfl⟩
    | long => exact htext ⟨_, rfl⟩

/-! ## Errors -/

/-- The value that reports an error cannot be put into words: it counts as true, and an integer in
    it has too many digits to be written out. -/
def Unspeakable (d : Data) : Prop := d.truthy = true ∧ d.isTooLong = true

/-- An error is reported in the words of its value, unless there are none. -/
theorem reported_ends (d : Data) :
    (∃ error, reported d = .ok error ∧ error.isSome = d.truthy ∧
        (∀ text ∈ error, text = d.plain) ∧ ¬ Unspeakable d) ∨
      reported d = .error (.type (.json .integer)) ∧ Unspeakable d := by
  unfold reported Data.wording
  by_cases htrue : d.truthy = true
  · by_cases hlong : d.isTooLong = true
    · exact .inr ⟨by rw [if_pos htrue, if_pos hlong]; rfl, htrue, hlong⟩
    · refine .inl ⟨some d.plain, by rw [if_pos htrue, if_neg hlong]; rfl, htrue.symm, ?_, ?_⟩
      · rintro text ⟨⟩
        rfl
      · exact fun h => hlong h.2
  · refine .inl ⟨none, by rw [if_neg htrue], (Bool.not_eq_true _ ▸ htrue).symm, ?_, ?_⟩
    · exact fun text h => absurd h (Option.not_mem_none text)
    · exact fun h => htrue h.1

/-! ## Sections -/

/-- The names of the counters of a section. -/
def counterNames : List String := ["totalResults", "page", "pages", "count"]

/-- The object of a section cannot be decoded, and with which fault: one of its counters is
    unreadable, or its error is unspeakable. -/
inductive Breaks (data : Record) : Fault → Prop
  | counter {name : String} {fault : IntegerFault} (known : name ∈ counterNames)
      (unreadable : Unreadable (data.getD name)) : Breaks data (.value (.integer fault))
  | error (unspeakable : Unspeakable (data.getD "error")) :
      Breaks data (.type (.json .integer))

/-- What is kept of the object of a section. -/
structure Keeps (name : Scalar) (data : Record) (r : ResponseSection) : Prop where
  name_eq : r.name = name
  /-- The items are those elements of the list of results that are objects, in their order. -/
  items : ∀ results, data.getD "results" = .list results →
    r.items.map Data.map = results.filter (·.entries?.isSome)
  /-- Where there is no list of results, there are no items. -/
  no_items : (∀ results, data.getD "results" ≠ .list results) → r.items = []
  total : Counter (data.getD "totalResults") r.total
  page : Counter (data.getD "page") r.page
  pages : Counter (data.getD "pages") r.pages
  count : Counter (data.getD "count") r.count
  /-- There is an error when its value counts as true, and it is that value as text. -/
  error : r.error.isSome = (data.getD "error").truthy
  error_text : ∀ text ∈ r.error, text = (data.getD "error").plain

/-- The objects of a list are its elements that have entries. -/
theorem map_objects (results : List Data) :
    (objects (.list results)).map Data.map = results.filter (·.entries?.isSome) := by
  induction results with
  | nil => rfl
  | cons d rest ih =>
    rw [objects] at ih ⊢
    cases d with
    | map entries => simpa [Data.entries?] using ih
    | _ => simpa [Data.entries?] using ih

/-- The object of a section is decoded, and what should be kept is, unless it breaks.  The counters
    are read one after the other and the error last, so the first of them that cannot be read is the
    one that decides. -/
theorem ofRecord_ends (name : Scalar) (data : Record) :
    (∃ r, ofRecord name data = .ok r ∧ r.Keeps name data ∧ ∀ fault, ¬ Breaks data fault) ∨
      ∃ fault, ofRecord name data = .error fault ∧ Breaks data fault := by
  rcases counter?_ends (data.getD "totalResults") with
    ⟨total, htotal, ctotal, utotal⟩ | ⟨fault, hf, hu⟩
  case inr => exact .inr ⟨_, by rw [ofRecord, hf]; rfl, .counter (by decide) hu⟩
  rcases counter?_ends (data.getD "page") with ⟨page, hpage, cpage, upage⟩ | ⟨fault, hf, hu⟩
  case inr => exact .inr ⟨_, by rw [ofRecord, htotal, hf]; rfl, .counter (by decide) hu⟩
  rcases counter?_ends (data.getD "pages") with ⟨pages, hpages, cpages, upages⟩ | ⟨fault, hf, hu⟩
  case inr => exact .inr ⟨_, by rw [ofRecord, htotal, hpage, hf]; rfl, .counter (by decide) hu⟩
  rcases counter?_ends (data.getD "count") with ⟨count, hcount, ccount, ucount⟩ | ⟨fault, hf, hu⟩
  case inr =>
    exact .inr ⟨_, by rw [ofRecord, htotal, hpage, hpages, hf]; rfl, .counter (by decide) hu⟩
  rcases reported_ends (data.getD "error") with ⟨error, herror, htrue, htext, hspoken⟩ | ⟨hf, hu⟩
  case inr => exact .inr ⟨_, by rw [ofRecord, htotal, hpage, hpages, hcount, hf]; rfl, .error hu⟩
  refine .inl ⟨_, by rw [ofRecord, htotal, hpage, hpages, hcount, herror]; rfl, ?_, ?_⟩
  · refine ⟨rfl, fun results hresults => ?_, fun hnone => ?_, ctotal, cpage, cpages, ccount, htrue,
      htext⟩
    · show (objects (data.getD "results")).map Data.map = _
      rw [hresults, map_objects]
    · show objects (data.getD "results") = []
      unfold objects
      split
      · next results hresults => exact absurd hresults (hnone results)
      · rfl
  · -- all that could break has been read
    have hreadable : ∀ counter ∈ counterNames, ¬ Unreadable (data.getD counter) := by
      simp only [counterNames, List.forall_mem_cons]
      exact ⟨utotal, upage, upages, ucount, fun _ h => absurd h List.not_mem_nil⟩
    intro fault hbreaks
    cases hbreaks with
    | counter hknown hunreadable => exact hreadable _ hknown hunreadable
    | error hunspeakable => exact hspoken hunspeakable

end ResponseSection

namespace Response

/-- A response has one section for each entry that is an object, under its name and in its order. -/
def Keeps (sections : Record) (r : Response) : Prop :=
  List.Forall₂ (fun (entry : Scalar × Data) (kept : Scalar × ResponseSection) =>
      kept.1 = entry.1 ∧ ∃ data, entry.2 = .map data ∧ kept.2.Keeps entry.1 data)
    (sections.filter (·.2.entries?.isSome)) r

/-- Some section cannot be decoded, and with which fault. -/
def Breaks (sections : Record) (fault : Fault) : Prop :=
  ∃ (name : Scalar) (data : Record), (name, .map data) ∈ sections ∧
    ResponseSection.Breaks data fault

/-- In an entry more there is something that breaks, or it was there before. -/
theorem breaks_cons_iff {name : Scalar} {d : Data} {sections : Record} {fault : Fault} :
    Breaks ((name, d) :: sections) fault ↔
      (∃ data : Record, d = .map data ∧ ResponseSection.Breaks data fault) ∨
        Breaks sections fault := by
  constructor
  · rintro ⟨other, data, hmem, hbreaks⟩
    rcases List.mem_cons.mp hmem with heq | hmem
    · cases heq
      exact .inl ⟨data, rfl, hbreaks⟩
    · exact .inr ⟨other, data, hmem, hbreaks⟩
  · rintro (⟨data, rfl, hbreaks⟩ | ⟨other, data, hmem, hbreaks⟩)
    · exact ⟨name, data, List.mem_cons_self, hbreaks⟩
    · exact ⟨other, data, List.mem_cons_of_mem _ hmem, hbreaks⟩

/-- What is no object is passed over. -/
theorem ofRecord_cons_of_not_map (name : Scalar) {d : Data} (h : ∀ data, d ≠ .map data)
    (rest : Record) : ofRecord ((name, d) :: rest) = ofRecord rest ∧
      ((name, d) :: rest).filter (·.2.entries?.isSome) = rest.filter (·.2.entries?.isSome) := by
  cases d with
  | map data => exact absurd rfl (h data)
  | _ => exact ⟨rfl, List.filter_cons_of_neg Bool.false_ne_true⟩

/-- The sections are decoded, and what should be kept is, unless one of them breaks. -/
theorem ofRecord_ends (sections : Record) :
    (∃ r, ofRecord sections = .ok r ∧ Keeps sections r ∧ ∀ fault, ¬ Breaks sections fault) ∨
      ∃ fault, ofRecord sections = .error fault ∧ Breaks sections fault := by
  induction sections with
  | nil =>
    refine .inl ⟨[], rfl, .nil, ?_⟩
    rintro fault ⟨name, data, hmem, -⟩
    cases hmem
  | cons entry rest ih =>
    obtain ⟨name, d⟩ := entry
    simp only [breaks_cons_iff]
    by_cases hobject : ∃ data, d = .map data
    · -- the object is decoded first, and then the sections behind it
      obtain ⟨data, rfl⟩ := hobject
      rcases ResponseSection.ofRecord_ends name data with
        ⟨kept, hkept, hkeeps, hwhole⟩ | ⟨fault, hfault, hbreaks⟩
      · rcases ih with ⟨others, hothers, hrest, hnone⟩ | ⟨fault, hfault, hbreaks⟩
        · refine .inl ⟨(name, kept) :: others, by rw [ofRecord, hkept, hothers]; rfl, ?_, ?_⟩
          · rw [Keeps, List.filter_cons_of_pos rfl]
            exact .cons ⟨rfl, data, rfl, hkeeps⟩ hrest
          · rintro fault (⟨_, ⟨⟩, hbreaks⟩ | hbreaks)
            · exact hwhole fault hbreaks
            · exact hnone fault hbreaks
        · exact .inr ⟨fault, by rw [ofRecord, hkept, hfault]; rfl, .inr hbreaks⟩
      · exact .inr ⟨fault, by rw [ofRecord, hfault]; rfl, .inl ⟨data, rfl, hbreaks⟩⟩
    · have hnone : ∀ data, d ≠ .map data := fun data h => hobject ⟨data, h⟩
      obtain ⟨hskip, hfilter⟩ := ofRecord_cons_of_not_map name hnone rest
      rw [hskip]
      rcases ih with ⟨others, hothers, hrest, hwhole⟩ | ⟨fault, hfault, hbreaks⟩
      · refine .inl ⟨others, hothers, by rwa [Keeps, hfilter], ?_⟩
        rintro fault (⟨data, rfl, -⟩ | hbreaks)
        · exact hnone data rfl
        · exact hwhole fault hbreaks
      · exact .inr ⟨fault, hfault, .inr hbreaks⟩

end Response

namespace Query

/-- Where the sections of a query are in a body: in the body itself for a search, and for a look-up
    in the object under the event's name, or nowhere. -/
inductive SectionsAt : Query → Record → Record → Prop
  | search (s : Search) (body : Record) : SectionsAt (.search s) body body
  | found {l : Lookup} {body sections : Record} (entry : body.get? l.uri = some (.map sections)) :
      SectionsAt (.lookup l) body sections
  | missing {l : Lookup} {body : Record}
      (noEntry : ∀ sections, body.get? l.uri ≠ some (.map sections)) :
      SectionsAt (.lookup l) body []

theorem sectionsAt_sectionsOf (q : Query) (body : Record) :
    SectionsAt q body (q.sectionsOf body) := by
  cases q with
  | search s => exact .search s body
  | lookup l =>
    rw [sectionsOf]
    split
    · next sections hentry => exact .found hentry
    · next hnone => exact .missing hnone

/-- How decoding the answer to a query ends. -/
inductive DecodingEnds (q : Query) : Data → Except Fault Response → Prop
  /-- The usable part of an object is kept, and nothing in it breaks. -/
  | kept {body sections : Record} {r : Response} (place : SectionsAt q body sections)
      (whole : ∀ fault, ¬ Response.Breaks sections fault)
      (keeps : Response.Keeps sections r) : DecodingEnds q (.map body) (.ok r)
  /-- A section cannot be decoded: a counter is a text of digits that cannot be read, or an error
      cannot be put into words. -/
  | broken {body sections : Record} {fault : Fault} (place : SectionsAt q body sections)
      (breaks : Response.Breaks sections fault) : DecodingEnds q (.map body) (.error fault)
  /-- What is no object has no sections. -/
  | noObject {body : Data} {typeName operation : String} (no : ∀ entries, body ≠ .map entries) :
      DecodingEnds q body (.error (.noAttribute typeName operation))

/-- **How decoding ends.**  Decoding an object keeps exactly what is usable of it, unless a counter
    in one of its sections is a text of digits that is no integer, or an error there has an integer
    of too many digits in it.  The two are told by looking at the body alone: `SectionsAt` says
    where its sections are, and `Response.Breaks` what in them cannot be decoded. -/
theorem decode_ends (q : Query) (body : Data) : DecodingEnds q body (q.decodeValue body) := by
  by_cases hobject : ∃ entries, body = .map entries
  · obtain ⟨entries, rfl⟩ := hobject
    rw [decodeValue_map, decode]
    have hat := sectionsAt_sectionsOf q entries
    rcases Response.ofRecord_ends (q.sectionsOf entries) with
      ⟨r, hr, hkeeps, hwhole⟩ | ⟨fault, hfault, hbreaks⟩
    · rw [hr]
      exact .kept hat hwhole hkeeps
    · rw [hfault]
      exact .broken hat hbreaks
  · -- whatever is asked of a value that is no object, it does not have it
    have hnone : ∀ entries, body ≠ .map entries := fun entries h => hobject ⟨entries, h⟩
    have hasked : ∀ operation, body.entriesBy operation =
        .error (.noAttribute body.fullTypeName operation) := by
      intro operation
      cases body with
      | map entries => exact absurd rfl (hnone entries)
      | _ => rfl
    cases q with
    | search s =>
      rw [decodeValue, sectionsIn]
      show DecodingEnds _ body (Response.ofData body)
      rw [Response.ofData, hasked]
      exact .noObject hnone
    | lookup l =>
      rw [decodeValue, sectionsIn, hasked]
      exact .noObject hnone

/-- An answer whose total is a superscript, which counts as a digit. -/
def superscriptTotal : Record :=
  [(.text "articles", .map [(.text "results", .list []), (.text "totalResults", .text "²")])]

/-- No search decodes it. -/
theorem exists_not_decoded :
    ∃ body : Record, ∀ (s : Search) (r : Response),
      (Query.search s).decodeValue (.map body) ≠ .ok r := by
  have hread : Response.ofRecord superscriptTotal =
      .error (.value (.integer (.invalid 10 "²"))) := by rfl
  refine ⟨superscriptTotal, fun s r h => ?_⟩
  rw [decodeValue_map, decode, sectionsOf, hread] at h
  cases h

end Query

end NewsSearch
