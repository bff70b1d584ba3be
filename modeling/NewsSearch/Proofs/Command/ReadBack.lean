import NewsSearch.Proofs.Command.Compiling

/-!
What is written is read back.

Two commands write JSON for others to read.  Running the searches saves the objects of the outcomes
in a file, and compiling shows the requests of all searches.  Either text is read as the very values
that it was written from, in order and with their keys in order.

An integer of too many digits keeps either text from being written.  When the texts are whole,
nothing else does; and a configuration has its texts in the JSON of documents too.

1. For saved outcomes there are two cases: the text of the file exists and is put into the tree, or
   it does not and saving fails (`save_readBack`).  It exists when the integers are short
   (`Report.exists_fileText_iff_isShort`), and is read as the objects (`Report.read_fileText`).
2. For compiled searches the same is known from the settings they were read from
   (`compile_readBack`).

The witness runs both with one configuration and with an outcome in which everything occurs that
JSON has.  The counterexamples show that neither condition can be left out: a long integer in an
item, a long integer in a query, and half a pair of surrogates behind an escape.

Main statement: `written_readBack`.
-/

namespace NewsSearch.Command

open Text

/-! ## Saved outcomes -/

section Saving

variable {plan : SearchPlan} {tree opened : FileTree} {place : Place} {outcomes : List Outcome}

/-- **Outcomes that hold JSON are saved exactly when their integers are short**, and then the file
    is read as the list of their objects. -/
theorem save_readBack (hjson : Report.Format.json ∈ plan.formats)
    (hopens : plan.opening tree = .ok (opened, place))
    (h : ∀ o ∈ outcomes, Report.HoldsJson o) :
    ((save plan tree outcomes).fault = none ↔ ∀ o ∈ outcomes, (Report.record o).IsShort) ∧
      ((save plan tree outcomes).fault = none →
        Json.read ((save plan tree outcomes).tree.textAt place) =
          .ok (.list (outcomes.map Report.record))) := by
  have hwritten := Report.exists_fileText_iff_isShort h
  rcases save_cases hjson hopens with ⟨text, htext, hbytes, hfault, hput⟩ | ⟨hnone, hfault⟩
  · -- the text exists and is put into the tree
    refine ⟨iff_of_true hfault (hwritten.mp ⟨text, htext, hbytes⟩), fun _ => ?_⟩
    rw [hput]
    exact Report.read_fileText h htext
  · -- there is no text that can be put into bytes, and saving fails
    refine ⟨iff_of_false hfault fun hshort => hnone (hwritten.mpr hshort), fun hsaved => ?_⟩
    exact absurd hsaved hfault

end Saving

/-! ## Both commands

One statement for both, since they make the same promise. -/

/-- Outcomes that hold JSON are saved when their integers are short, and the file is read as their
    objects.  Accepted settings of whole texts are compiled when the integers of the queries are
    short, and what is shown is read as the requests, with the compiled documents as queries.
    Either way, everything is there, in order. -/
theorem written_readBack :
    (∀ {plan : SearchPlan} {tree opened : FileTree} {place : Place} {outcomes : List Outcome},
      .json ∈ plan.formats → plan.opening tree = .ok (opened, place) →
      (∀ o ∈ outcomes, Report.HoldsJson o) →
        ((save plan tree outcomes).fault = none ↔ ∀ o ∈ outcomes, (Report.record o).IsShort) ∧
        ((save plan tree outcomes).fault = none →
          Json.read ((save plan tree outcomes).tree.textAt place) =
            .ok (.list (outcomes.map Report.record)))) ∧
    ∀ {environment : Config.Environment} {raw : Record} {settings : Config.Settings},
      Data.KeysOnce (.map raw) → Config.HasWholeTexts raw →
      Config.Settings.read environment raw = .ok settings →
      ∀ {ω : Type} (i : Invocation ω) (journal : OpenJournal),
        ((compile i settings journal).code = 0 ↔
          ∀ n ∈ settings.search.searches, n.search.HasShortIntegers) ∧
        ((compile i settings journal).code = 0 → ∃ text,
          (compile i settings journal).output =
            consoleText settings journal.openingNotes ++ (text ++ "\n") ∧
          Json.read text = .ok (.list (settings.search.searches.map shownRequest))) := by
  constructor
  · intro plan tree opened place outcomes hjson hopens h
    exact save_readBack hjson hopens h
  · intro environment raw settings honce hwhole h ω i journal
    exact compile_readBack (Config.described_of_read h honce) (Config.isWhole_of_read h hwhole) i
      journal rfl

/-! ## Two searches and what they find -/

/-- An item with values of all kinds within each other, empty ones, and characters that files
    keep. -/
def nestedItem : Record := Record.ofTexts [
  ("title", .text "\u2028\u007f \"é\" \\ \n"),
  ("counts", .list [.int (-3), .bool true, .null, .list [], .map []]),
  ("source", .map (Record.ofTexts [("title", .list [.list [.text ""]])]))]

/-- The item has a JSON form: its texts are whole, and its mappings have texts for keys, each of
    them once. -/
theorem isJson_nestedItem : Json.IsJson (.map nestedItem) := by
  have htext {s : String} (hs : IsWhole s) : Json.IsJson (.text s) := .scalar (.text hs)
  have hcounts : ∀ d ∈ [Data.int (-3), .bool true, .null, .list [], .map []], Json.IsJson d := by
    simp only [List.forall_mem_cons]
    exact ⟨.scalar (.int _), .scalar (.bool _), .scalar .null, .list (List.forall_mem_nil _),
      Json.isJson_empty, List.forall_mem_nil _⟩
  have hsource : Json.IsJson (.map (Record.ofTexts [("title", .list [.list [.text ""]])])) := by
    refine Json.isJson_ofTexts (by decide) (by decide) (List.forall_mem_singleton.mpr ?_)
    exact .list (List.forall_mem_singleton.mpr
      (.list (List.forall_mem_singleton.mpr (htext (by decide)))))
  -- each key of the item, with its value
  refine Json.isJson_ofTexts (by decide) (by decide) ?_
  simp only [List.forall_mem_cons]
  exact ⟨htext (by decide), .list hcounts, hsource, List.forall_mem_nil _⟩

/-- The failure of a second page, with a message outside ASCII. -/
def secondFailed : PageFault := ⟨2, [], .reported "überlastet"⟩

/-- An outcome with that item, one with nothing in it, and that failure. -/
def foundBy (n : NamedSearch) : Outcome := ⟨n, [nestedItem, []], 2, some 7, some secondFailed⟩

/-- The outcome holds JSON, when its search is a regular one with whole texts. -/
theorem holdsJson_foundBy {n : NamedSearch} (h : n.search.Regular) (hwhole : n.IsWhole) :
    Report.HoldsJson (foundBy n) := by
  have hmessage : IsWhole secondFailed.message := by decide
  refine ⟨h, hwhole, ?_, ?_⟩
  · rintro fault ⟨⟩
    exact hmessage
  · exact List.forall_mem_cons.mpr
      ⟨isJson_nestedItem, List.forall_mem_singleton.mpr Json.isJson_empty⟩

/-- A plan that saves outcomes and does nothing else. -/
def savingPlan : SearchPlan := ⟨[], .standard, [.json], "out", someNoon⟩

section Around

open Config

variable {queries : List Data}

/-- The settings around the searches have no key twice, at the top or in any section. -/
theorem keysOnce_rawWith (h : ∀ d ∈ queries, d.KeysOnce) :
    Data.KeysOnce (.map (rawWith queries)) := by
  have hkeys : ((rawWith queries).map (·.1)).Pairwise fun a b => a.same b = false := by
    simp only [rawWith, List.map_cons, List.map_nil]
    decide
  refine .map (List.pairwise_map.mp hkeys) ?_
  simp only [rawWith, List.forall_mem_cons]
  exact ⟨by decide, by decide, .list h, by decide, by decide, List.forall_mem_nil _⟩

/-- Their texts are whole, so that all texts are when those of the searches are. -/
theorem isWhole_rawWith (h : ∀ d ∈ queries, d.IsWhole) : Data.IsWhole (.map (rawWith queries)) := by
  refine Data.every_map_iff.mpr ?_
  simp only [rawWith, List.forall_mem_cons]
  exact ⟨by decide, by decide, ⟨by decide, Data.every_list_iff.mpr h⟩, by decide, by decide,
    List.forall_mem_nil _⟩

end Around

open Config in
/-- The texts of both searches are whole, and so are those in the document of the second one, which
    has to be read to see them. -/
theorem hasWholeTexts_weekly : HasWholeTexts (rawWith weeklyQueries) := by
  refine ⟨isWhole_rawWith (by decide), ?_⟩
  rintro values hvalues entries hmem s hs d hread
  cases hvalues
  simp only [weeklyQueries, List.mem_cons, Data.map.injEq, List.not_mem_nil, or_false] at hmem
  rcases hmem with rfl | rfl
  · cases hs
  · cases hs
    have hall : ((Json.read "\x7b\"$query\": \x7b\"lang\": [\"eng\", \"deu\"]\x7d\x7d").toOption.all
        fun d => decide d.IsWhole) = true := by decide +kernel
    rw [hread] at hall
    exact of_decide_eq_true hall

open Config in
/-- Both searches are compiled, and what they find is saved. -/
theorem written_readBack_weekly :
    Data.KeysOnce (.map (rawWith weeklyQueries)) ∧ HasWholeTexts (rawWith weeklyQueries) ∧
    ∃ settings, Settings.read keyEnvironment (rawWith weeklyQueries) = .ok settings ∧
      settings.search.searches.length = 2 ∧
      (∀ {ω : Type} (i : Invocation ω) (journal : OpenJournal),
        (compile i settings journal).code = 0 ∧ ∃ text,
          (compile i settings journal).output =
            consoleText settings journal.openingNotes ++ (text ++ "\n") ∧
          Json.read text = .ok (.list (settings.search.searches.map shownRequest))) ∧
      ∃ opened place, .json ∈ savingPlan.formats ∧
        savingPlan.opening (.ofTexts []) = .ok (opened, place) ∧
        (∀ o ∈ settings.search.searches.map foundBy, Report.HoldsJson o) ∧
        (save savingPlan (.ofTexts []) (settings.search.searches.map foundBy)).fault = none ∧
        Json.read ((save savingPlan (.ofTexts [])
            (settings.search.searches.map foundBy)).tree.textAt place) =
          .ok (.list ((settings.search.searches.map foundBy).map Report.record)) := by
  have honce : Data.KeysOnce (.map (rawWith weeklyQueries)) := keysOnce_rawWith (by decide)
  have hread : ((Settings.read keyEnvironment (rawWith weeklyQueries)).toOption.map fun s =>
      (s.search.searches.length, s.search.searches.all fun n =>
        n.search.documentText.toOption.isSome &&
          (Json.fault? true (Report.record (foundBy n))).isNone)) = some (2, true) := by
    decide +kernel
  have hopens : (savingPlan.opening (.ofTexts [])).toOption.isSome = true := by decide +kernel
  obtain ⟨settings, hsettings, hfound⟩ := ok_of_toOption_map hread
  obtain ⟨hlength, hall⟩ := Prod.mk.inj hfound
  obtain ⟨⟨opened, place⟩, hopening⟩ := ok_of_isSome hopens
  -- what is computed says that each query has a text and each object no fault; the rest holds of
  -- all configured searches
  have hfacts : ∀ n ∈ settings.search.searches, n.search.HasShortIntegers ∧
      Report.HoldsJson (foundBy n) ∧ (Report.record (foundBy n)).IsShort := by
    intro n hn
    obtain ⟨htext, hnone⟩ := Bool.and_eq_true_iff.mp (List.all_eq_true.mp hall n hn)
    have hregular := (described_of_read hsettings honce n hn).regular
    have hholds := holdsJson_foundBy hregular (isWhole_of_read hsettings hasWholeTexts_weekly n hn)
    have hfault := Option.isNone_iff_eq_none.mp hnone
    exact ⟨hregular.sendable.documentText_eq_ok_iff.mp (ok_of_isSome htext), hholds,
      (Json.fault?_eq_none_iff hholds.isJson_record.shaped).mp hfault⟩
  have hholds : ∀ o ∈ settings.search.searches.map foundBy, Report.HoldsJson o :=
    List.forall_mem_map.mpr fun n hn => (hfacts n hn).2.1
  have hshort : ∀ o ∈ settings.search.searches.map foundBy, (Report.record o).IsShort :=
    List.forall_mem_map.mpr fun n hn => (hfacts n hn).2.2
  have hjson : .json ∈ savingPlan.formats := List.mem_cons_self
  obtain ⟨hsaves, hcompiles⟩ := written_readBack
  obtain ⟨hfault, hfile⟩ := hsaves hjson hopening hholds
  refine ⟨honce, hasWholeTexts_weekly, settings, hsettings, hlength, ?_, opened, place, hjson,
    hopening, hholds, hfault.mpr hshort, hfile (hfault.mpr hshort)⟩
  intro ω i journal
  obtain ⟨hcode, hshown⟩ := hcompiles honce hasWholeTexts_weekly hsettings i journal
  have hdone := hcode.mpr fun n hn => (hfacts n hn).1
  exact ⟨hdone, hshown hdone⟩

/-! ## What is not written

Each case is made so that everything else about it is in order. -/

/-- An outcome of JSON with an integer that cannot be written in decimal. -/
def hugeOutcome : Outcome :=
  ⟨⟨none, .unrestricted .articles⟩, [[(.text "id", .int (Number.pow10 digitLimit))]], 1, some 1,
    none⟩

/-- The text of a document, in ASCII, with an escape for half a pair of surrogates. -/
def escapedDocument : String := "\x7b\"$query\": \x7b\"keyword\": \"\\ud800\"\x7d\x7d"

/-- A search for what it describes. -/
def escapedQueries : List Data := [.map [(.text "COMPLEX", .text escapedDocument)]]

/-- Whether the first mark among characters stands before a surrogate.  This can be decided for
    characters that are given, without reading all of them as code points. -/
def isMarked (cs : List Char) : Bool :=
  match cs.dropWhile (· != surrogateMark) with
  | mark :: x :: _ => mark == surrogateMark && (surrogate? x).isSome
  | _ => false

/-- Then they have no form in bytes, because nothing before the first mark is one. -/
theorem encodingFault?_of_isMarked {cs : List Char} (h : isMarked cs = true) :
    encodingFault? (String.ofList cs) ≠ none := by
  -- the first mark has none before it
  have hbefore : ∀ c ∈ cs.takeWhile (· != surrogateMark), c ≠ surrogateMark := by
    intro c hc
    simpa using List.all_eq_true.mp List.all_takeWhile c hc
  unfold isMarked at h
  split at h
  · next mark x after hdrop =>
    obtain ⟨hmark, hx⟩ := Bool.and_eq_true_iff.mp h
    rw [← List.takeWhile_append_dropWhile (p := (· != surrogateMark)) (l := cs), hdrop,
      eq_of_beq hmark]
    exact Json.encodingFault?_ne_none hbefore hx
  · cases h

open Config in
/-- An outcome is not saved for a long integer in an item; and accepted settings of whole texts are
    not compiled, for a long integer in a query or for half a pair that stands behind an escape. -/
theorem exists_unwritten :
    (Report.HoldsJson hugeOutcome ∧ ∀ text, Report.fileText [hugeOutcome] ≠ .ok text) ∧
    (Data.KeysOnce (.map (rawWith hugeQueries)) ∧ HasWholeTexts (rawWith hugeQueries) ∧
      ∃ settings, Settings.read keyEnvironment (rawWith hugeQueries) = .ok settings ∧
        ∀ text, compiledText settings.search.searches ≠ .ok text) ∧
    (Data.KeysOnce (.map (rawWith escapedQueries)) ∧ Data.IsWhole (.map (rawWith escapedQueries)) ∧
      ∃ settings, Settings.read keyEnvironment (rawWith escapedQueries) = .ok settings ∧
        ∀ text, compiledText settings.search.searches ≠ .ok text) := by
  have hnever {x : Except Fault String} (h : x.toOption.isSome = false) : ∀ text, x ≠ .ok text := by
    rintro text rfl
    cases h
  refine ⟨⟨?_, hnever (by decide +kernel)⟩,
    ⟨keysOnce_rawWith (by decide), ⟨isWhole_rawWith (by decide), ?_⟩, ?_⟩,
    keysOnce_rawWith (by decide), isWhole_rawWith (by decide), ?_⟩
  · -- the outcome is of a search without conditions, and has one item
    have hregular : (Search.unrestricted .articles).Regular :=
      ⟨fun n hn => absurd hn (Option.not_mem_none n), .nil⟩
    have hwhole : hugeOutcome.search.IsWhole :=
      ⟨fun s hs => absurd hs (Option.not_mem_none s), fun n hn => absurd hn (Option.not_mem_none n)⟩
    refine ⟨hregular, hwhole, fun f hf => absurd hf (Option.not_mem_none f), ?_⟩
    refine List.forall_mem_singleton.mpr ?_
    exact ParsedDocument.formed_single Json.formed_isJson (by decide) (.scalar (.int _))
  · -- its only search has no document
    rintro values hvalues entries hmem s hs
    cases hvalues
    cases List.mem_singleton.mp hmem
    cases hs
  · -- the query has a number that is too long for any text
    have hread : ((Settings.read keyEnvironment (rawWith hugeQueries)).toOption.map fun s =>
        (compiledText s.search.searches).toOption.isSome) = some false := by decide +kernel
    obtain ⟨settings, hsettings, hnone⟩ := ok_of_toOption_map hread
    exact ⟨settings, hsettings, hnever hnone⟩
  · have hread : ((Settings.read keyEnvironment (rawWith escapedQueries)).toOption.map fun s =>
        (s.search.searches.mapM compiledRequest).toOption.map fun shown =>
          isMarked (Json.chars Json.file 0 (.list shown))) = some (some true) := by decide +kernel
    obtain ⟨settings, hsettings, hfound⟩ := ok_of_toOption_map hread
    obtain ⟨shown, hshown, hmarked⟩ := ok_of_toOption_map hfound
    refine ⟨settings, hsettings, fun text htext => ?_⟩
    simp only [compiledText, bind_eq_ok_iff, hshown, Except.ok.injEq, mapError_eq_ok_iff] at htext
    obtain ⟨_, rfl, written, hwrite, hlast⟩ := htext
    -- the text is there, and has the surrogate
    unfold Json.write at hwrite
    split at hwrite
    · cases hwrite
    · cases hwrite
      split at hlast
      · cases hlast
      · next hnone => exact encodingFault?_of_isMarked hmarked hnone

end NewsSearch.Command
