import NewsSearch.Proofs.Json.Writing
import NewsSearch.Proofs.Query.RegularSearch
import NewsSearch.Report.Record

/-!
The text of the file that holds outcomes.

The object of an outcome has the shape of JSON when its items have, for its query has in any case
(`shaped_record`).  So one thing can keep the file from having a text, an integer that is too long
to be written; and one thing more can keep that text from being put into bytes, a surrogate.  Both
are looked for in the objects of the outcomes (`Writable`), and nothing else is asked for
(`exists_fileText_iff`).

When an outcome holds JSON and nothing but whole texts (`HoldsJson`), its object has a JSON form of
its own, however its items are nested (`HoldsJson.isJson_record`).  Then short integers are all that
is asked for, and the text is read as the list of the objects, with their keys in order.

Main statements: `exists_fileText_iff`, `read_fileText`.
-/

namespace NewsSearch

namespace Report

open Text

/-- The object of an outcome has neither integers that are too long nor surrogates. -/
def Writable (o : Outcome) : Prop := (record o).IsShort ∧ (record o).IsEncodable

/-- The object of an outcome of a search that can be sent has the shape of JSON if its items
    have. -/
theorem shaped_record {o : Outcome} (hsearch : o.search.search.Sendable)
    (hitems : ∀ item ∈ o.items, Json.Shaped (.map item)) : Json.Shaped (record o) := by
  have htext (s : Option String) : Json.Shaped (optionalText s) := by
    cases s with
    | none => exact .null
    | some s => exact .text s
  have hint (n : Option Int) : Json.Shaped (optionalInt n) := by
    cases n with
    | none => exact .null
    | some n => exact .int n
  refine .map ?_ ?_
  · intro e he
    obtain ⟨pair, -, rfl⟩ := List.mem_map.mp he
    exact ⟨pair.1, rfl⟩
  · refine List.forall_mem_map.mpr ?_
    simp only [List.forall_mem_cons]
    exact ⟨htext _, .text _, hsearch.shaped, hint _, .int _, htext _,
      .list (List.forall_mem_map.mpr hitems), fun pair h => absurd h List.not_mem_nil⟩

/-- A surrogate in the document of the search is one in the object of its outcome. -/
theorem not_writable_of_document {o : Outcome}
    (h : ¬ (Data.map o.search.search.document).IsEncodable) : ¬ Writable o := by
  rintro ⟨-, hrecord⟩
  rw [record, Data.IsEncodable, Data.every_map_iff] at hrecord
  refine h (hrecord (.text "query", .map o.search.search.document) ?_).2
  refine List.mem_map.mpr ⟨("query", .map o.search.search.document), ?_, rfl⟩
  simp only [List.mem_cons, true_or, or_true]

/-- **Outcomes have a text that can be put into bytes exactly when all their objects are
    writable.** -/
theorem exists_fileText_iff {outcomes : List Outcome}
    (h : ∀ o ∈ outcomes, Json.Shaped (record o)) :
    (∃ text, fileText outcomes = .ok text ∧ encodingFault? text = none) ↔
      ∀ o ∈ outcomes, Writable o := by
  have hshaped : Json.Shaped (.list (outcomes.map record)) := .list (List.forall_mem_map.mpr h)
  have hshort : Json.fault? true (.list (outcomes.map record)) = none ↔
      ∀ o ∈ outcomes, (record o).IsShort := by
    rw [Json.fault?_eq_none_iff hshaped, Data.IsShort, Data.every_list_iff, List.forall_mem_map]
  have hbytes : encodingFault? (String.ofList
      (Json.chars Json.file 0 (.list (outcomes.map record)))) = none ↔
        ∀ o ∈ outcomes, (record o).IsEncodable := by
    rw [Json.encodingFault?_file_iff hshaped, Data.IsEncodable, Data.every_list_iff,
      List.forall_mem_map]
  simp only [Writable, forall₂_and, ← hshort, ← hbytes, fileText, mapError_eq_ok_iff,
    Json.writeLenient]
  cases Json.fault? true (.list (outcomes.map record)) <;> simp

/-! ## Outcomes that hold JSON

What the object of an outcome has besides the items are the texts of its search, counters, and the
message of its fault. -/

/-- The outcome is one of a regular search of whole texts, the message of its fault is whole, and
    its items are JSON objects. -/
structure HoldsJson (o : Outcome) : Prop where
  regular : o.search.search.Regular
  whole : o.search.IsWhole
  message : ∀ fault ∈ o.fault, IsWhole fault.message
  items : ∀ item ∈ o.items, Json.IsJson (.map item)

/-- A whole text that may be missing has a JSON form. -/
theorem isJson_optionalText {s : Option String} (h : ∀ t ∈ s, IsWhole t) :
    Json.IsJson (optionalText s) := by
  cases s with
  | none => exact .scalar .null
  | some t => exact .scalar (.text (h t rfl))

/-- So has an integer that may be missing. -/
theorem isJson_optionalInt (n : Option Int) : Json.IsJson (optionalInt n) := by
  cases n with
  | none => exact .scalar .null
  | some n => exact .scalar (.int n)

/-- The words for what a search looks for are whole. -/
theorem isWhole_word (t : Target) : IsWhole t.word := by
  cases t <;> decide

/-- The keys of the object of an outcome. -/
def recordKeys : List String :=
  ["name", "type", "query", "total_results", "pages", "error", "items"]

/-- The object of such an outcome has a JSON form of its own. -/
theorem HoldsJson.isJson_record {o : Outcome} (h : HoldsJson o) : Json.IsJson (record o) := by
  have honce : recordKeys.Nodup := by decide
  have hkeys : ∀ key ∈ recordKeys, IsWhole key := by decide
  have hmessage : ∀ t ∈ o.fault.map (·.message), IsWhole t := by
    intro t ht
    obtain ⟨fault, hfault, rfl⟩ := Option.map_eq_some_iff.mp ht
    exact h.message fault hfault
  refine Json.isJson_ofTexts honce hkeys ?_
  simp only [List.forall_mem_cons]
  exact ⟨isJson_optionalText h.whole.name, .scalar (.text (isWhole_word _)),
    h.regular.isJson h.whole.search, isJson_optionalInt _, .scalar (.int _),
    isJson_optionalText hmessage, .list (List.forall_mem_map.mpr h.items), List.forall_mem_nil _⟩

section Files

variable {outcomes : List Outcome} (h : ∀ o ∈ outcomes, HoldsJson o)
include h

/-- Outcomes that hold JSON have a text that can be put into bytes when their integers are short. -/
theorem exists_fileText_iff_isShort :
    (∃ text, fileText outcomes = .ok text ∧ encodingFault? text = none) ↔
      ∀ o ∈ outcomes, (record o).IsShort := by
  have hjson : ∀ o ∈ outcomes, Json.IsJson (record o) := fun o ho => (h o ho).isJson_record
  rw [exists_fileText_iff fun o ho => (hjson o ho).shaped]
  constructor
  · exact fun hall o ho => (hall o ho).1
  · exact fun hall o ho => ⟨hall o ho, (hjson o ho).isEncodable⟩

/-- **Their text is read as the list of their objects.** -/
theorem read_fileText {text : String} (htext : fileText outcomes = .ok text) :
    Json.read text = .ok (.list (outcomes.map record)) := by
  have hjson : Json.IsJson (.list (outcomes.map record)) :=
    .list (List.forall_mem_map.mpr fun o ho => (h o ho).isJson_record)
  rw [fileText, mapError_eq_ok_iff] at htext
  exact Json.read_writeLenient hjson htext

end Files

end Report

end NewsSearch
