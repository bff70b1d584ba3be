import NewsSearch.Proofs.Query.SavedQuery
import NewsSearch.Proofs.Query.SentSearch
import NewsSearch.Search.Outcome

/-!
Searches whose documents are JSON.

What parameters or a document describe is a regular search: its conditions can be sent, and its
filters are known ones, each of them once (`Search.Regular`).  The compiled document of a regular
search has a JSON form of its own as soon as the texts in it are whole, so that it is read back from
any text that is written from it.

Such a search asks for the usual listing, because neither parameters without an offer nor a document
say anything else (`checkOffer_other`).  So it is described in full by its subject, its tree and its
filters (`described_of_ofAllParams`, `described_of_ofExplicit`).

Main statement: `Search.Regular.isJson`.
-/

namespace NewsSearch

open Text

namespace Search

/-- The conditions of the search can be sent, and its filters are known, each of them once. -/
structure Regular (s : Search) : Prop where
  sendable : s.Sendable
  filters : s.filters.Sound

/-- The texts in the conditions of the search are whole. -/
def IsWhole (s : Search) : Prop := ∀ n ∈ s.root, ∀ c ∈ n.conditions, c.IsWhole

/-- **The document of a regular search of whole texts has a JSON form of its own.** -/
theorem Regular.isJson {s : Search} (h : s.Regular) (hwhole : s.IsWhole) :
    Json.IsJson (.map s.document) :=
  ParsedDocument.isJson_compiled h.sendable hwhole h.filters

/-- A search that is regular and asks for the usual listing alone. -/
structure Described (s : Search) : Prop where
  regular : s.Regular
  sections : s.sections = [standardSection s.subject]

/-- Where no section is offered, none but the usual listing is asked for. -/
theorem checkOffer_other {subject : Subject} {a : Argument} {wanted : Section}
    (h : checkOffer subject (offerOrStandard subject (.other a)) = .ok wanted) :
    wanted = standardSection subject := by
  have hown : (standardSection subject).target = subject.target := by cases subject <;> rfl
  unfold offerOrStandard at h
  simp only [] at h
  split at h
  · cases h
  · rw [checkOffer, if_pos hown] at h
    cases h
    rfl

/-- What parameters describe, each of them given once. -/
theorem described_of_ofAllParams {subject : Subject} {params : Params} {s : Search}
    (honce : (params.map (·.1)).Nodup) (h : ofAllParams subject params = .ok s) : s.Described := by
  have hsendable := sendable_of_ofAllParams h
  simp only [ofAllParams, ofParams, check_eq_ok_iff, bind_eq_ok_iff] at h
  obtain ⟨-, -, -, filters, hfilters, root, -, wanted, hwanted, hs⟩ := h
  cases hs
  have hkept (keep : String × Argument → Bool) {given : Params}
      (hgiven : (given.map (·.1)).Nodup) : ((given.filter keep).map (·.1)).Nodup :=
    hgiven.sublist (List.filter_sublist.map _)
  have hsound : filters.Sound := Filters.sound_of_params (hkept _ (hkept _ honce)) hfilters
  refine ⟨⟨hsendable, hsound⟩, ?_⟩
  rw [checkOffer_other hwanted]

/-- What a document describes, in which each mapping has its keys once. -/
theorem described_of_ofExplicit {subject : Subject} {source : Data} {s : Search}
    (honce : source.KeysOnce) (h : ofExplicit subject (.query (.data source)) = .ok s) :
    s.Described := by
  have hsendable := sendable_of_ofExplicit h
  have hsource : (ExplicitSource.query (.data source)).WellMade := honce
  have hsound := sound_withExplicit hsource h
  obtain ⟨e, -, rfl⟩ := map_eq_ok_iff.mp h
  exact ⟨⟨hsendable, hsound.known⟩, rfl⟩

end Search

/-- The name of the search and the texts in its conditions are whole. -/
structure NamedSearch.IsWhole (n : NamedSearch) : Prop where
  name : ∀ s ∈ n.name, Text.IsWhole s
  search : n.search.IsWhole

end NewsSearch
