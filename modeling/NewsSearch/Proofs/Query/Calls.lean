import NewsSearch.Proofs.Query.Reachable
import NewsSearch.Query.Call

/-!
What a search keeps through calls.

Callers make a search from parameters or from an explicit search (`Search.Made`) and then call on it
any number of times; each call may be refused.  What they hand in is built by the operations of the
library: a tree from conditions (`Node.Built`), a wrapper from what it wraps, an explicit search
from its query (`Argument.Given`, `ExplicitSource.Given`).

After every call the search is settled (`Search.Settled`): it asks for sections of its own subject,
at least one and no name twice (`Subject.Asks`), its filters are known ones, and every combination
in its tree has a part.

1. What callers come by is well made: the operations refuse to combine nothing and to wrap nothing
   (`Node.Built.isProper`, `Argument.Given.wellMade`).
2. Therefore tree and filters are those of a search that callers can reach, for which the invariant
   is `Search.Reachable.sound`.
3. The sections have their own step lemma (`Search.asks_of_apply`): a search starts with one section
   of its own, a section is replaced by one of its own, or added under a new name, and an explicit
   search does not touch the sections.
4. A refused call leaves the search as it was.  So both invariants go through a call, accepted or
   refused (`Reachable.run`, `asks_of_run`), and by induction through any sequence of calls
   (`reachable_after`).

Main statement: `Search.settled_after_calls`.
-/

namespace NewsSearch

/-! ## What callers come by

Each kind of argument is taken back to how it is built, so that nothing is assumed of it that
callers could get wrong. -/

/-- A tree that the operations on trees build from conditions. -/
inductive Node.Built : Node → Prop
  | condition (c : Condition) : Built (.condition c)
  | combined {mode : Mode} {arguments : List Argument} {n : Node}
      (parts : ∀ m, Argument.node m ∈ arguments → Built m)
      (made : Node.combine mode arguments = .ok n) : Built n
  | negated {a : Argument} {n : Node} (part : ∀ m, a = .node m → Built m)
      (made : Node.negate a = .ok n) : Built n

namespace Node

/-- What is combined has a part, and its parts are the arguments. -/
theorem combine_eq_ok {mode : Mode} {arguments : List Argument} {n : Node}
    (h : combine mode arguments = .ok n) :
    ∃ parts, parts ≠ [] ∧ arguments = parts.map .node ∧ n = combination mode parts := by
  unfold combine at h
  split at h
  · cases h
  · next hsome =>
    obtain ⟨parts, hparts, rfl⟩ := map_eq_ok_iff.mp h
    have harguments := childrenFrom_ok hparts
    refine ⟨parts, ?_, harguments, rfl⟩
    rintro rfl
    exact hsome (by rw [harguments]; rfl)

/-- The operations build no combination without a part, by induction on how a tree is built. -/
theorem Built.isProper {n : Node} (h : n.Built) : n.isProper = true := by
  induction h with
  | condition c => rfl
  | @combined mode arguments n _ made ih =>
    obtain ⟨parts, hne, rfl, rfl⟩ := combine_eq_ok made
    have hparts : areProper parts = true :=
      areProper_iff.mpr fun m hm => ih m (List.mem_map_of_mem hm)
    cases mode <;> simp [combination, Node.isProper, hparts, hne]
  | @negated a n _ made ih =>
    cases a with
    | node m =>
      cases made
      exact ih m rfl
    | _ => cases made

end Node

/-- An argument as callers come by it: data of their language, a tree and a wrapper from the
    operations of the library. -/
def Argument.Given : Argument → Prop
  | .data d => d.KeysOnce
  | .node n => n.Built
  | .wrapped mode values => ∃ a, wrap mode a = .ok (.wrapped mode values)
  | .list _ | .tuple _ | .map _ => True

/-- What is wrapped has a value: a single value is one, and an empty list is refused. -/
theorem Argument.ne_nil_of_wrap {mode : Mode} {a : Argument} {values : List Argument}
    (h : wrap mode a = .ok (.wrapped mode values)) : values ≠ [] := by
  unfold wrap at h
  split at h
  · cases h
    exact List.cons_ne_nil _ _
  · split at h
    · cases h
    · cases h
    · next hne _ =>
      cases h
      rintro rfl
      exact hne rfl

/-- What callers come by is well made. -/
theorem Argument.Given.wellMade {a : Argument} (h : a.Given) : a.WellMade := by
  cases a with
  | data d => exact h
  | node n => exact Node.Built.isProper h
  | wrapped mode values =>
    obtain ⟨source, hsource⟩ := h
    exact ne_nil_of_wrap hsource
  | _ => trivial

/-- What an explicit search is given as by callers. -/
def ExplicitSource.Given : ExplicitSource → Prop
  | .explicit e => ∃ subject query params, Argument.Given query ∧
      Explicit.make subject query params = .ok e
  | .query a => a.Given

/-- So is an explicit search that they made, or its query. -/
theorem ExplicitSource.Given.wellMade {source : ExplicitSource} (h : source.Given) :
    source.WellMade := by
  cases source with
  | explicit e =>
    obtain ⟨subject, query, params, hquery, hmake⟩ := h
    exact ⟨subject, query, params, hquery.wellMade, hmake⟩
  | query a => exact Argument.Given.wellMade h

/-- A call as callers make it. -/
def Search.Call.Given : Search.Call → Prop
  | .withExplicit source => source.Given
  | .setSection _ | .addSection _ => True

/-- A search for the subject as callers make it: from parameters, each given once, and a section
    offered with them, or from an explicit search. -/
inductive Search.Made (subject : Subject) : Search → Prop
  | ofParams {params : Params} {offer : Offer} {s : Search} (once : (params.map (·.1)).Nodup)
      (given : ∀ p ∈ params, p.2.Given) (made : Search.ofParams subject params offer = .ok s) :
      Made subject s
  | ofExplicit {source : ExplicitSource} {s : Search} (given : source.Given)
      (made : Search.ofExplicit subject source = .ok s) : Made subject s

/-! ## Sections

A section is offered by a caller and checked against the subject.  This is the invariant that the
calls keep, with its cases. -/

/-- Sections that a search for the subject asks for: at least one, no name twice, and all of them
    about the subject. -/
structure Subject.Asks (subject : Subject) (sections : List Section) : Prop where
  nonempty : sections ≠ []
  distinct : (sections.map Section.sectionType).Nodup
  own : ∀ wanted ∈ sections, wanted.target = subject.target

namespace Search

variable {subject : Subject}

/-- An offer is accepted when it is a section of the subject. -/
theorem checkOffer_eq_ok_iff {offer : Offer} {wanted : Section} :
    checkOffer subject offer = .ok wanted ↔
      offer = .of wanted ∧ wanted.target = subject.target := by
  cases offer with
  | other a => simp [checkOffer]
  | of s =>
    by_cases hown : s.target = subject.target
    · simp only [checkOffer, if_pos hown, Except.ok.injEq, Offer.of.injEq]
      exact ⟨fun h => ⟨h, h ▸ hown⟩, And.left⟩
    · simp only [checkOffer, if_neg hown, Offer.of.injEq, reduceCtorEq, false_iff]
      rintro ⟨rfl, h⟩
      exact hown h

/-- One section of its own is what a search can ask for. -/
theorem asks_singleton {wanted : Section} (h : wanted.target = subject.target) :
    subject.Asks [wanted] where
  nonempty := List.cons_ne_nil _ _
  distinct := List.pairwise_singleton _ _
  own := List.forall_mem_singleton.mpr h

/-- So is one more section under a name that is not there yet. -/
theorem asks_append {sections : List Section} {wanted : Section} (hbefore : subject.Asks sections)
    (hown : wanted.target = subject.target)
    (hnew : ∀ other ∈ sections, other.sectionType ≠ wanted.sectionType) :
    subject.Asks (sections ++ [wanted]) where
  nonempty := by simp
  distinct := by
    rw [List.map_append, List.nodup_append]
    refine ⟨hbefore.distinct, List.pairwise_singleton _ _, ?_⟩
    intro name hname other hother
    obtain ⟨held, hheld, rfl⟩ := List.mem_map.mp hname
    rw [List.map_singleton, List.mem_singleton] at hother
    rw [hother]
    exact hnew held hheld
  own := List.forall_mem_append.mpr ⟨hbefore.own, List.forall_mem_singleton.mpr hown⟩

/-- A search that has just been made asks for one section of its own: the one that was offered, or
    the standard one of its subject. -/
theorem Made.asks {s : Search} (h : Made subject s) :
    s.subject = subject ∧ subject.Asks s.sections := by
  cases h with
  | ofParams _ _ made =>
    simp only [Search.ofParams, check_eq_ok_iff, bind_eq_ok_iff] at made
    obtain ⟨-, -, -, _, -, _, -, wanted, hwanted, hs⟩ := made
    cases hs
    exact ⟨rfl, asks_singleton (checkOffer_eq_ok_iff.mp hwanted).2⟩
  | ofExplicit _ made =>
    obtain ⟨e, -, rfl⟩ := map_eq_ok_iff.mp made
    refine ⟨rfl, asks_singleton ?_⟩
    cases subject <;> rfl

/-- **A call that is not refused keeps to the subject and to what a search for it can ask for.** -/
theorem asks_of_apply {s s' : Search} {c : Call} (hbefore : s.subject.Asks s.sections)
    (h : c.apply s = .ok s') : s'.subject = s.subject ∧ s.subject.Asks s'.sections := by
  cases c with
  | setSection offer =>
    obtain ⟨wanted, hwanted, rfl⟩ := map_eq_ok_iff.mp h
    exact ⟨rfl, asks_singleton (checkOffer_eq_ok_iff.mp hwanted).2⟩
  | addSection offer =>
    obtain ⟨wanted, hwanted, h⟩ := bind_eq_ok_iff.mp h
    split at h
    · cases h
    · next hnew =>
      cases h
      refine ⟨rfl, asks_append hbefore (checkOffer_eq_ok_iff.mp hwanted).2 ?_⟩
      simpa using hnew
  | withExplicit source =>
    obtain ⟨e, -, rfl⟩ := map_eq_ok_iff.mp h
    exact ⟨rfl, hbefore⟩

/-! ## Calls one after the other

A run of calls ends in the search after the last of them; a refused call leaves the search before
it. -/

/-- A call leads from one reachable search to another, refused or not. -/
theorem Reachable.run {s : Search} {c : Call} (hc : c.Given) (h : s.Reachable) :
    (c.run s).2.Reachable := by
  rw [Call.run_eq]
  cases hresult : c.apply s with
  | error fault => exact h
  | ok s' =>
    cases c with
    | setSection offer => exact h.setSection hresult
    | addSection offer => exact h.addSection hresult
    | withExplicit source => exact h.withExplicit (ExplicitSource.Given.wellMade hc) hresult

/-- A call, refused or not, keeps to the subject and its sections. -/
theorem asks_of_run {s : Search} (c : Call)
    (hbefore : s.subject = subject ∧ subject.Asks s.sections) :
    (c.run s).2.subject = subject ∧ subject.Asks (c.run s).2.sections := by
  obtain ⟨rfl, hasks⟩ := hbefore
  rw [Call.run_eq]
  cases hresult : c.apply s with
  | error fault => exact ⟨rfl, hasks⟩
  | ok s' => exact asks_of_apply hasks hresult

/-- A search that callers made is one that they can reach. -/
theorem Made.reachable {s : Search} (h : Made subject s) : s.Reachable := by
  cases h with
  | ofParams once given made =>
    exact .ofParams once (fun p hp => (given p hp).wellMade) made
  | ofExplicit given made => exact .ofExplicit given.wellMade made

/-- A search that is ready to be sent: it asks for sections of its subject, its filters are known
    ones, each name once, and none for events, and every combination in its tree has a part. -/
structure Settled (subject : Subject) (s : Search) : Prop where
  about : s.subject = subject
  asks : subject.Asks s.sections
  known : ∀ filter ∈ s.filters, Filters.IsFilter filter.1 filter.2
  once : (s.filters.map (·.1)).Nodup
  unfiltered : subject = .events → s.filters = []
  proper : ∀ n ∈ s.root, n.isProper = true

/-- A reachable search that asks for the right sections is settled. -/
theorem Reachable.settled {s : Search} (h : s.Reachable)
    (hasks : s.subject = subject ∧ subject.Asks s.sections) : Settled subject s := by
  obtain ⟨rfl, hsections⟩ := hasks
  obtain ⟨hproper, hfilters, hunfiltered⟩ := h.sound
  refine ⟨rfl, hsections, hfilters.known, hfilters.once, ?_, hproper⟩
  intro hevents
  exact hunfiltered (by rw [hevents]; rfl)

/-- After any calls, refused or not, a search is reachable and asks for the right sections, by
    induction on the calls. -/
theorem reachable_after {s : Search} {calls : List Call} (hcalls : ∀ c ∈ calls, c.Given)
    (hreachable : s.Reachable) (hasks : s.subject = subject ∧ subject.Asks s.sections) :
    (s.after calls).Reachable ∧
      (s.after calls).subject = subject ∧ subject.Asks (s.after calls).sections := by
  induction calls generalizing s with
  | nil => exact ⟨hreachable, hasks⟩
  | cons c rest ih =>
    obtain ⟨hc, hrest⟩ := List.forall_mem_cons.mp hcalls
    exact ih hrest (hreachable.run hc) (asks_of_run c hasks)

/-- A call that is refused leaves the search as it was. -/
theorem unchanged_of_refused {s : Search} {c : Call} {fault : Fault}
    (h : (c.run s).1 = .error fault) : (c.run s).2 = s := by
  rw [Call.run_eq] at h ⊢
  cases hresult : c.apply s with
  | error fault => rfl
  | ok s' =>
    rw [hresult] at h
    cases h

/-- A search that takes over an explicit search has its document, and asks for what it asked.
    Nothing of the tree and the filters before it is left. -/
theorem document_of_withExplicit {s : Search} {source : ExplicitSource}
    (h : ((Call.withExplicit source).run s).1 = .ok ()) :
    ∃ e, explicitOf s.subject source = .ok e ∧
      ((Call.withExplicit source).run s).2.document = e.document ∧
      ((Call.withExplicit source).run s).2.sections = s.sections := by
  rw [Call.run_eq] at h ⊢
  cases hresult : (Call.withExplicit source).apply s with
  | error fault =>
    rw [hresult] at h
    cases h
  | ok s' =>
    obtain ⟨e, he, rfl⟩ := map_eq_ok_iff.mp hresult
    exact ⟨e, he, rfl, rfl⟩

/-- The explicit search that a source gives is the source itself or made for its query. -/
theorem explicitOf_eq_ok {source : ExplicitSource} {e : Explicit}
    (h : explicitOf subject source = .ok e) :
    source = .explicit e ∨ ∃ a, source = .query a ∧ Explicit.make subject a [] = .ok e := by
  cases source with
  | explicit given =>
    rw [explicitOf] at h
    split at h
    · cases h
      exact Or.inl rfl
    · cases h
  | query a => exact Or.inr ⟨a, rfl, h⟩

/-- **A search that callers made is settled after any calls, refused or not.**  A further call that
    is refused changes nothing; one that takes over an explicit search, whatever the tree and the
    filters were, leaves the document of that search and the sections that were asked for. -/
theorem settled_after_calls {s : Search} (hs : Made subject s) {calls : List Call}
    (hcalls : ∀ c ∈ calls, c.Given) :
    Settled subject (s.after calls) ∧
      (∀ (c : Call) (fault : Fault), (c.run (s.after calls)).1 = .error fault →
        (c.run (s.after calls)).2 = s.after calls) ∧
      ∀ source : ExplicitSource, ((Call.withExplicit source).run (s.after calls)).1 = .ok () →
        ∃ e, (source = .explicit e ∨
            ∃ a, source = .query a ∧ Explicit.make subject a [] = .ok e) ∧
          ((Call.withExplicit source).run (s.after calls)).2.document = e.document ∧
          ((Call.withExplicit source).run (s.after calls)).2.sections =
            (s.after calls).sections := by
  obtain ⟨hreachable, hsubject, hasks⟩ := reachable_after hcalls hs.reachable hs.asks
  refine ⟨hreachable.settled ⟨hsubject, hasks⟩, fun c fault => unchanged_of_refused, ?_⟩
  intro source hdone
  obtain ⟨e, he, hdocument, hsections⟩ := document_of_withExplicit hdone
  rw [hsubject] at he
  exact ⟨e, explicitOf_eq_ok he, hdocument, hsections⟩

/-- A keyword, and a filter that leaves out duplicates. -/
def keywordParams : Params :=
  [("keywords", .data (.text "nasa")), ("is_duplicate_filter", .data (.text "skipDuplicates"))]

/-- The concepts of articles as a further section. -/
def conceptSection : Section := .aggregate .articleConcepts .null (.int 25)

/-- A document that asks for articles in English. -/
def englishDocument : Data := .map [(.text queryKey, .map [(.text "lang", .text "eng")])]

/-- Calls some of which are refused: a section of events, a further section, the same once more, a
    query that is no document, and one that is. -/
def mixedCalls : List Call := [
  .addSection (.of (standardSection .events)),
  .addSection (.of conceptSection),
  .addSection (.of conceptSection),
  .withExplicit (.query (.data (.int 5))),
  .withExplicit (.query (.data englishDocument))]

/-- After these calls the search asks for two sections, has no filters, and is settled. -/
theorem settled_after_calls_mixed :
    ∃ s, Search.ofParams .articles keywordParams (.other (.data .null)) = .ok s ∧
      (s.after mixedCalls).sections.map Section.sectionType = ["articles", "conceptAggr"] ∧
      (s.after mixedCalls).filters = [] ∧ Settled .articles (s.after mixedCalls) := by
  have hobserved : (Search.ofParams .articles keywordParams (.other (.data .null))).toOption.map
      (fun s => ((s.after mixedCalls).sections.map Section.sectionType,
        (s.after mixedCalls).filters)) = some (["articles", "conceptAggr"], []) := by
    decide +kernel
  cases hs : Search.ofParams .articles keywordParams (.other (.data .null)) with
  | error fault =>
    rw [hs] at hobserved
    cases hobserved
  | ok s =>
    rw [hs] at hobserved
    obtain ⟨hsections, hfilters⟩ := Prod.mk.inj (Option.some.inj hobserved)
    have hmade : Made .articles s := by
      refine .ofParams (by decide) ?_ hs
      intro p hp
      rcases List.mem_pair.mp hp with rfl | rfl <;> exact .scalar _
    have hdocument : englishDocument.KeysOnce :=
      .map (List.pairwise_singleton _ _) (List.forall_mem_singleton.mpr
        (.map (List.pairwise_singleton _ _) (List.forall_mem_singleton.mpr (.scalar _))))
    have hgiven : ∀ c ∈ mixedCalls, c.Given := by
      simp only [mixedCalls, List.forall_mem_cons, Call.Given, ExplicitSource.Given,
        Argument.Given]
      exact ⟨trivial, trivial, trivial, .scalar _, hdocument, fun _ h => absurd h List.not_mem_nil⟩
    exact ⟨s, rfl, hsections, hfilters, (settled_after_calls hmade hgiven).1⟩

end Search

end NewsSearch
