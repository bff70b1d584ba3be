import NewsSearch.Command.Program
import NewsSearch.Proofs.Config.AcceptedSettings
import NewsSearch.Proofs.Report.ConsoleText
import NewsSearch.Proofs.Report.FileText
import NewsSearch.Proofs.Search.Transcript

/-!
All searches are run, whatever becomes of each.

The searches of a plan are run one after the other over one connection.  Three things could go wrong
between them: an answer of the service could be lost, or reach another search than the one that
asked for it, or a page that fails could change what the later searches give.  None of them happens,
for each search hears some answers, and its outcome is that of the search collected on these answers
alone (`Hearing`).

One thing ends a run early.  An outcome is shown on the console before the next search begins, and
an integer that is too long to be written out keeps it from being shown.  Then the later searches
are not run and nothing is saved, yet the connection is still closed.

1. `Reaches` says which searches are run: all of them, each with an outcome that is shown, or those
   up to the first whose outcome is not.  It has a case for every way in which the recursion of
   `runSearches` goes on or ends.
2. A search that comes before others is collected from the state that the others left, and
   everything it is told can be told it again (`exists_hearing`).  This is what makes its outcome
   one of its answers alone, and its exchanges the first ones of all (`Heard.cons`, `Heard.stop`).
3. By induction on the passes, all of which end, the searches are heard as far as the run reaches
   (`exists_hearings`).  Neither a page that fails nor the end of a pass is a reason to stop.
4. What follows is the same for every run: saving, closing, and one note more (`SearchPlan.run_eq`).
   Saving fails when an outcome has no text that can be put into bytes (`save_cases`), which is
   asked of the objects of the outcomes.

`SearchPlan.Carried` puts all of this together for a run, and `searches_carried` shows it for the
searches of accepted settings.  The run completes when every outcome is shown, if it is shown at
all, and can be written, if it is saved.
-/

namespace NewsSearch.Command

open Text

variable {σ : Type}

/-! ## Searches and what they hear -/

/-- A search and the answers that it heard, one for each page that it asked for. -/
structure Hearing where
  search : NamedSearch
  answers : List Answer

namespace Hearing

variable (plan : SearchPlan) (fuel : Nat) (h : Hearing)

/-- The search collected on its answers alone. -/
def alone : Collected (List Answer) := h.search.collect .replay plan.options fuel h.answers

/-- The outcome on these answers alone. -/
def outcome : Outcome := (h.alone plan fuel).outcome

/-- It is an outcome of the search. -/
theorem outcome_search : (h.outcome plan fuel).search = h.search :=
  NamedSearch.collect_search plan.options fuel h.search h.answers

/-- The notes about a search that has the given place among all: what opens it, what is noted while
    it is collected, and its outcome as it is shown. -/
def notes (total index : Nat) : List Note :=
  openingNotes index total h.search ++ (h.alone plan fuel).notes ++
    (showOutcome plan.formats (h.outcome plan fuel)).notes

end Hearing

/-- The notes about searches of which the first has the given place among all. -/
def notesOf (plan : SearchPlan) (fuel total : Nat) : Nat → List Hearing → List Note
  | _, [] => []
  | index, h :: rest =>
    h.notes plan fuel total index ++ notesOf plan fuel total (index + 1) rest

/-- All passes end: collecting each of the searches, one after the other, is not stopped. -/
inductive PassesEnd (d : Dispatcher σ) (options : CollectOptions) : List NamedSearch → σ → Prop
  | nil (s : σ) : PassesEnd d options [] s
  | cons {n : NamedSearch} {rest : List NamedSearch} {s : σ} (fuel : Nat)
      (ends : (n.collect d options fuel s).ending ≠ .stopped)
      (later : PassesEnd d options rest (n.collect d options fuel s).state) :
      PassesEnd d options (n :: rest) s

/-- Whether each of the searches, one after the other, is collected in so many pulls.  This can be
    computed, for a service and searches that are given. -/
def endWithin (d : Dispatcher σ) (options : CollectOptions) (fuel : Nat) :
    List NamedSearch → σ → Bool
  | [], _ => true
  | n :: rest, s =>
    let collected := n.collect d options fuel s
    match collected.ending with
    | .stopped => false
    | _ => endWithin d options fuel rest collected.state

/-- If so, all passes end. -/
theorem passesEnd_of_endWithin {d : Dispatcher σ} {options : CollectOptions} {fuel : Nat}
    {searches : List NamedSearch} {s : σ} (h : endWithin d options fuel searches s = true) :
    PassesEnd d options searches s := by
  induction searches generalizing s with
  | nil => exact .nil s
  | cons n rest ih =>
    simp only [endWithin] at h
    split at h
    · cases h
    · next hends => exact .cons fuel hends (ih h)

/-! ## How far a run reaches -/

/-- An outcome is shown in full, if the plan shows it at all. -/
def SearchPlan.Shows (plan : SearchPlan) (o : Outcome) : Prop :=
  .console ∈ plan.formats → Report.Showable o

/-- Showing an outcome with JSON items either succeeds or ends with an integer that is too long. -/
theorem SearchPlan.showOutcome_cases (plan : SearchPlan) {o : Outcome}
    (h : ∀ item ∈ o.items, Json.Shaped (.map item)) :
    (plan.Shows o ∧ (showOutcome plan.formats o).fault = none) ∨
    (¬ plan.Shows o ∧ (showOutcome plan.formats o).fault = some (.type (.json .integer))) := by
  -- a plan without the console shows nothing, and there is nothing to fail
  by_cases hconsole : .console ∈ plan.formats
  · have hdisplay : showOutcome plan.formats o = Report.display o :=
      if_pos (by simpa using hconsole)
    rw [hdisplay]
    rcases Report.display_cases h with ⟨hshown, hfault⟩ | ⟨hlong, hfault⟩
    · exact Or.inl ⟨fun _ => hshown, hfault⟩
    · exact Or.inr ⟨fun hall => hlong (hall hconsole), by rw [hfault]⟩
  · have hnothing : showOutcome plan.formats o = ⟨[], none⟩ := if_neg (by simpa using hconsole)
    rw [hnothing]
    exact Or.inl ⟨fun h => absurd h hconsole, rfl⟩

/-- Running the searches reaches these: first those whose outcomes are shown, and then, if there is
    one, the search whose outcome is not.  No search comes after that one. -/
inductive Reaches (plan : SearchPlan) (fuel : Nat) :
    List NamedSearch → List Hearing → Option Hearing → Prop
  | nil : Reaches plan fuel [] [] none
  | stop {h : Hearing} {rest : List NamedSearch} (unshown : ¬ plan.Shows (h.outcome plan fuel)) :
      Reaches plan fuel (h.search :: rest) [] (some h)
  | cons {h : Hearing} {rest : List NamedSearch} {hearings : List Hearing} {last : Option Hearing}
      (shown : plan.Shows (h.outcome plan fuel)) (later : Reaches plan fuel rest hearings last) :
      Reaches plan fuel (h.search :: rest) (h :: hearings) last

namespace Reaches

variable {plan : SearchPlan} {fuel : Nat} {searches : List NamedSearch} {hearings : List Hearing}
  {last : Option Hearing}

/-- The first searches are reached, each once and in order. -/
theorem isPrefix (h : Reaches plan fuel searches hearings last) :
    (hearings ++ last.toList).map (·.search) <+: searches := by
  induction h with
  | nil => exact List.nil_prefix
  | @stop h rest unshown => exact ⟨rest, rfl⟩
  | @cons h rest hearings last shown later ih =>
    rw [List.cons_append, List.map_cons]
    exact (List.prefix_cons_inj h.search).mpr ih

/-- Without a search that stops the run, all are reached. -/
theorem all (h : Reaches plan fuel searches hearings none) :
    hearings.map (·.search) = searches := by
  generalize hlast : (none : Option Hearing) = last at h
  induction h with
  | nil => rfl
  | stop unshown => cases hlast
  | cons shown later ih => rw [List.map_cons, ih hlast]

/-- Every outcome before that of the last search is shown. -/
theorem shown (h : Reaches plan fuel searches hearings last) :
    ∀ h ∈ hearings, plan.Shows (h.outcome plan fuel) := by
  induction h with
  | nil | stop unshown => exact fun h hmem => absurd hmem List.not_mem_nil
  | cons shown later ih => exact List.forall_mem_cons.mpr ⟨shown, ih⟩

/-- And that of the last one, if there is one, is not. -/
theorem unshown (h : Reaches plan fuel searches hearings last) :
    ∀ h ∈ last, ¬ plan.Shows (h.outcome plan fuel) := by
  induction h with
  | nil => nofun
  | stop unshown =>
    rintro h ⟨⟩
    exact unshown
  | cons shown later ih => exact ih

end Reaches

/-- The searches hear these answers, as far as the run reaches: each of them ends and leaves none of
    its answers over, and running them all gives their notes and their outcomes in order.  Written
    down are the exchanges of each, in order, and nothing else. -/
structure Heard (d : Dispatcher σ) (plan : SearchPlan) (fuel total index : Nat)
    (searches : List NamedSearch) (s : σ) (hearings : List Hearing) (last : Option Hearing) :
    Prop where
  reaches : Reaches plan fuel searches hearings last
  ended : ∀ h ∈ hearings ++ last.toList,
    (h.alone plan fuel).ending = .ended ∧ (h.alone plan fuel).state = []
  run : ∃ final, runSearches d plan fuel total index searches s =
      ⟨notesOf plan fuel total index (hearings ++ last.toList),
        hearings.map (·.outcome plan fuel), last.map fun _ => .type (.json .integer), final⟩ ∧
    ∀ log, runSearches d.transcribed plan fuel total index searches (log, s) =
      ⟨notesOf plan fuel total index (hearings ++ last.toList),
        hearings.map (·.outcome plan fuel), last.map fun _ => .type (.json .integer),
        (log ++ (hearings ++ last.toList).flatMap fun h =>
          h.search.exchanges plan.options h.answers, final)⟩

section Steps

variable {d : Dispatcher σ} {plan : SearchPlan} {fuel total index : Nat} {s : σ}

/-- What a search hears from some state on: on these answers alone it gives what it gives there, and
    its exchanges are written down behind all earlier ones. -/
structure Hearing.From (h : Hearing) (d : Dispatcher σ) (plan : SearchPlan) (fuel : Nat) (s : σ) :
    Prop where
  alone : h.alone plan fuel = (h.search.collect d plan.options fuel s).withState []
  written : ∀ log, h.search.collect d.transcribed plan.options fuel (log, s) =
    (h.search.collect d plan.options fuel s).withState
      (log ++ h.search.exchanges plan.options h.answers,
        (h.search.collect d plan.options fuel s).state)

/-- Every search hears something from any state on.  Its answers are those that its transcript has,
    and collecting it on them alone uses them up. -/
theorem exists_hearing (d : Dispatcher σ) (plan : SearchPlan) (fuel : Nat) (n : NamedSearch)
    (s : σ) : ∃ h : Hearing, h.search = n ∧ h.From d plan fuel s := by
  obtain ⟨answers, hwritten, hagain⟩ := n.exists_answers d plan.options fuel s
  refine ⟨⟨n, answers⟩, rfl, ?_, hwritten⟩
  have hall := hagain []
  rwa [List.append_nil] at hall

namespace Hearing.From

variable {h : Hearing}

theorem outcome (hfrom : h.From d plan fuel s) :
    h.outcome plan fuel = (h.search.collect d plan.options fuel s).outcome := by
  rw [Hearing.outcome, hfrom.alone]
  rfl

theorem notes (hfrom : h.From d plan fuel s) : h.notes plan fuel total index =
    openingNotes index total h.search ++ (h.search.collect d plan.options fuel s).notes ++
      (showOutcome plan.formats (h.search.collect d plan.options fuel s).outcome).notes := by
  rw [Hearing.notes, hfrom.outcome, hfrom.alone]
  rfl

/-- A search that ends there ends on its answers alone, and leaves none of them over. -/
theorem ended (hfrom : h.From d plan fuel s)
    (hended : (h.search.collect d plan.options fuel s).ending = .ended) :
    (h.alone plan fuel).ending = .ended ∧ (h.alone plan fuel).state = [] := by
  rw [hfrom.alone]
  exact ⟨hended, rfl⟩

end Hearing.From

/-- No searches hear nothing, and the state stays as it is. -/
theorem Heard.nil : Heard d plan fuel total index [] s [] none := by
  refine ⟨.nil, by simp, s, rfl, ?_⟩
  intro log
  simp only [Option.toList_none, List.append_nil, List.flatMap_nil]
  rfl

/-- A search whose outcome cannot be shown is the last one. -/
theorem Heard.stop {h : Hearing} (rest : List NamedSearch) (hfrom : h.From d plan fuel s)
    (hended : (h.search.collect d plan.options fuel s).ending = .ended)
    (hunshown : ¬ plan.Shows (h.outcome plan fuel))
    (hfault : (showOutcome plan.formats (h.outcome plan fuel)).fault =
      some (.type (.json .integer))) :
    Heard d plan fuel total index (h.search :: rest) s [] (some h) := by
  rw [hfrom.outcome] at hfault
  refine ⟨.stop hunshown, ?_, (h.search.collect d plan.options fuel s).state, ?_, ?_⟩
  · exact List.forall_mem_singleton.mpr (hfrom.ended hended)
  · -- over the connection as it is
    simp only [runSearches, hended, hfault, Option.toList_some, List.nil_append, notesOf,
      hfrom.notes, List.append_nil, List.map_nil, Option.map_some]
  · -- over the one that writes down what passes
    intro log
    simp only [runSearches, hfrom.written, Collected.withState, hended, hfault, Option.toList_some,
      List.nil_append, notesOf, hfrom.notes, List.append_nil, List.map_nil, Option.map_some,
      List.flatMap_cons, List.flatMap_nil]

/-- A search whose outcome is shown comes before others, which are run from the state that it
    leaves. -/
theorem Heard.cons {h : Hearing} {rest : List NamedSearch} {hearings : List Hearing}
    {last : Option Hearing} (hfrom : h.From d plan fuel s)
    (hended : (h.search.collect d plan.options fuel s).ending = .ended)
    (hshown : plan.Shows (h.outcome plan fuel))
    (hfault : (showOutcome plan.formats (h.outcome plan fuel)).fault = none)
    (hrest : Heard d plan fuel total (index + 1) rest
      (h.search.collect d plan.options fuel s).state hearings last) :
    Heard d plan fuel total index (h.search :: rest) s (h :: hearings) last := by
  rw [hfrom.outcome] at hfault
  obtain ⟨final, hrun, htranscribed⟩ := hrest.run
  refine ⟨.cons hshown hrest.reaches, ?_, final, ?_, ?_⟩
  · exact List.forall_mem_cons.mpr ⟨hfrom.ended hended, hrest.ended⟩
  · -- over the connection as it is
    simp only [runSearches, hended, hfault, hrun, List.cons_append, notesOf, hfrom.notes,
      List.map_cons, hfrom.outcome]
  · -- over the one that writes down what passes, behind what is written already
    intro log
    simp only [runSearches, hfrom.written, Collected.withState, hended, hfault, htranscribed,
      List.cons_append, notesOf, hfrom.notes, List.map_cons, hfrom.outcome, List.flatMap_cons,
      List.append_assoc]

/-- With passes that end and answers that do not break, the searches are heard as far as the run
    reaches, and their outcomes have JSON items.

    The pulls that are enough for the first search and for the others are enough for all: a pass
    that ends is the same with more pulls. -/
theorem exists_hearings (hd : d.Gives fun item => Json.Shaped (.map item))
    (hpagers : ∀ n : NamedSearch, ∃ p, (n.pager plan.options).2 = .ok p) (total index : Nat)
    {searches : List NamedSearch} (h : PassesEnd d plan.options searches s) :
    ∃ enough, ∀ fuel, enough ≤ fuel → ∃ hearings last,
      Heard d plan fuel total index searches s hearings last ∧
        ∀ h ∈ hearings ++ last.toList, ∀ item ∈ (h.outcome plan fuel).items,
          Json.Shaped (.map item) := by
  induction h generalizing index with
  | nil s => exact ⟨0, fun fuel _ => ⟨[], none, .nil, by simp⟩⟩
  | @cons n rest s least hends hlater ih =>
    -- the induction hypothesis speaks of the state that the first search leaves with `least` pulls,
    -- which is also the one that it leaves with any greater number
    obtain ⟨enough, hrest⟩ := ih (index + 1)
    refine ⟨max least enough, fun fuel hfuel => ?_⟩
    have hsame := NamedSearch.collect_of_le d (show least ≤ fuel by omega) hends
    obtain ⟨hbroken, hitems⟩ := NamedSearch.collect_gives hd (hpagers n) fuel s
    -- a pass ends, breaks, or is stopped: answers that do not break rule out the second, and enough
    -- pulls the third
    have hended : (n.collect d plan.options fuel s).ending = .ended := by
      cases hending : (n.collect d plan.options fuel s).ending with
      | ended => rfl
      | broken fault => exact absurd hending (hbroken fault)
      | stopped =>
        rw [hsame] at hending
        exact absurd hending hends
    obtain ⟨h, rfl, hfrom⟩ := exists_hearing d plan fuel n s
    rw [← hfrom.outcome] at hitems
    rcases plan.showOutcome_cases hitems with ⟨hshown, hfault⟩ | ⟨hunshown, hfault⟩
    · -- the outcome is shown, and the run goes on
      obtain ⟨hearings, last, hheard, hothers⟩ := hrest fuel (by omega)
      rw [← hsame] at hheard
      exact ⟨h :: hearings, last, .cons hfrom hended hshown hfault hheard,
        List.forall_mem_cons.mpr ⟨hitems, hothers⟩⟩
    · -- it is not, and this was the last search
      exact ⟨[], some h, .stop rest hfrom hended hunshown hfault,
        List.forall_mem_singleton.mpr hitems⟩

end Steps

/-! ## Saving -/

/-- Makes the directories that lead to the file for the outcomes, and opens it. -/
def SearchPlan.opening (plan : SearchPlan) (tree : FileTree) :
    Except PathFault (FileTree × Place) := do
  (← tree.makeDirectories plan.savePath).openFile
    (plan.savePath.below ("search_" ++ fileStamp plan.stamp ++ ".json"))

/-- A file has the text that was put there. -/
theorem textAt_put (t : FileTree) (place : Place) (text : String) :
    (t.put place text).textAt place = text := by
  simp [FileTree.textAt, FileTree.entry?, FileTree.put]

variable {plan : SearchPlan} {tree opened : FileTree} {place : Place} {outcomes : List Outcome}

/-- A file that can be opened takes the outcomes when they have a text that can be put into bytes;
    otherwise saving ends with a fault. -/
theorem save_cases (hjson : Report.Format.json ∈ plan.formats)
    (hopens : plan.opening tree = .ok (opened, place)) :
    (∃ text, Report.fileText outcomes = .ok text ∧ encodingFault? text = none ∧
      (save plan tree outcomes).fault = none ∧ (save plan tree outcomes).tree.textAt place = text) ∨
    ((¬ ∃ text, Report.fileText outcomes = .ok text ∧ encodingFault? text = none) ∧
      (save plan tree outcomes).fault ≠ none) := by
  obtain ⟨made, hmade, hopened⟩ := bind_eq_ok_iff.mp hopens
  have hchosen : plan.formats.contains .json = true := by simpa using hjson
  rw [save, if_pos hchosen]
  cases htext : Report.fileText outcomes with
  -- no text, for an integer that is too long
  | error fault => exact Or.inr ⟨by rintro ⟨text, ⟨⟩, -⟩, nofun⟩
  | ok text =>
    simp only [hmade, writeOutcomes, hopened]
    cases hbytes : encodingFault? text with
    | none => exact Or.inl ⟨text, rfl, hbytes, rfl, textAt_put _ _ _⟩
    | some fault =>
      -- a text, but none that can be put into bytes
      refine Or.inr ⟨?_, nofun⟩
      rintro ⟨text', heq, hnone⟩
      cases heq
      rw [hbytes] at hnone
      cases hnone

/-- Nothing is saved when the outcomes are not to be. -/
theorem save_of_not_mem (hjson : .json ∉ plan.formats) (tree : FileTree)
    (outcomes : List Outcome) : save plan tree outcomes = ⟨[], tree, none⟩ := by
  have hchosen : plan.formats.contains .json = false := by simpa using hjson
  rw [save, hchosen]
  rfl

/-! ## The whole run -/

/-- What is left behind by saving the outcomes that are shown, when the last search that is run may
    be one whose outcome is not: then nothing is saved, and the fault is the one that ended it. -/
def SearchPlan.saving (plan : SearchPlan) (tree : FileTree) (outcomes : List Outcome) :
    Option Hearing → Saved
  | none => save plan tree outcomes
  | some _ => ⟨[], tree, some (.type (.json .integer))⟩

/-- The notes at the end of a run: how many outcomes are incomplete, or the fault that ended it. -/
def lastNotes (outcomes : List Outcome) : Option Fault → List Note
  | none => incompleteNotes outcomes
  | some fault => [failureNote fault]

/-- **How a run of all searches goes**, when these are the answers that they hear.  The searches of
    `hearings` have outcomes that are shown; `last` is the search, if there is one, whose outcome is
    not. -/
structure SearchPlan.Carried (plan : SearchPlan) (c : Connection σ) (fuel : Nat) (tree : FileTree)
    (place : Place) (s : σ) (hearings : List Hearing) (last : Option Hearing) : Prop where
  /-- The searches are run once each, in order. -/
  searches : (hearings ++ last.toList).map (·.search) <+: plan.searches
  /-- They are all run, unless one has an outcome that cannot be shown. -/
  all : last = none → hearings.map (·.search) = plan.searches
  shown : ∀ h ∈ hearings, plan.Shows (h.outcome plan fuel)
  unshown : ∀ h ∈ last, ¬ plan.Shows (h.outcome plan fuel)
  /-- On its answers alone, every search comes to the end of its pass and of the answers. -/
  alone : ∀ h ∈ hearings ++ last.toList,
    (h.alone plan fuel).ending = .ended ∧ (h.alone plan fuel).state = []
  /-- What passes over the connection are the exchanges of the searches, in order; after them it is
      closed, once. -/
  passages : (plan.run c.transcribed fuel tree ([], s)).state.1 =
    ((hearings ++ last.toList).flatMap fun h => h.search.exchanges plan.options h.answers) ++
      [.closing]
  /-- Writing down what passes changes nothing. -/
  transcribed : (plan.run c.transcribed fuel tree ([], s)).notes = (plan.run c fuel tree s).notes ∧
    (plan.run c.transcribed fuel tree ([], s)).tree = (plan.run c fuel tree s).tree ∧
    (plan.run c.transcribed fuel tree ([], s)).fault = (plan.run c fuel tree s).fault ∧
    (plan.run c.transcribed fuel tree ([], s)).state.2 = (plan.run c fuel tree s).state
  /-- Noted are every search with its outcome, in order, then that the outcomes are saved, what
      closing gives, and in the end how many outcomes have a fault, or the fault of the run. -/
  noted : ∃ final, (plan.run c fuel tree s).notes =
    notesOf plan fuel plan.searches.length 1 (hearings ++ last.toList) ++
      (plan.saving tree (hearings.map (·.outcome plan fuel)) last).notes ++ (c.shut final).1 ++
        lastNotes (hearings.map (·.outcome plan fuel)) (plan.run c fuel tree s).fault
  /-- After an outcome that cannot be shown nothing is saved. -/
  unsaved : ∀ h ∈ last, (plan.run c fuel tree s).fault = some (.type (.json .integer)) ∧
    (plan.run c fuel tree s).tree = tree
  /-- The run completes, unless an outcome cannot be shown, or the outcomes are saved and one of
      them cannot be written. -/
  completes : (plan.run c fuel tree s).fault = none ↔
    last = none ∧ (.json ∈ plan.formats → ∀ h ∈ hearings, Report.Writable (h.outcome plan fuel))
  /-- When it completes and the outcomes are saved, the file holds them, in order. -/
  saved : (plan.run c fuel tree s).fault = none → .json ∈ plan.formats →
    ∃ text, Report.fileText (hearings.map (·.outcome plan fuel)) = .ok text ∧
      (plan.run c fuel tree s).tree.textAt place = text

/-- After the searches their outcomes are saved, unless one could not be shown, and either way the
    connection is closed. -/
theorem SearchPlan.run_eq (c : Connection σ) (tree : FileTree) {fuel : Nat} {s final : σ}
    {notes : List Note} {last : Option Hearing}
    (h : runSearches c.dispatcher plan fuel plan.searches.length 1 plan.searches s =
      ⟨notes, outcomes, last.map fun _ => .type (.json .integer), final⟩) :
    plan.run c fuel tree s =
      ⟨notes ++ (plan.saving tree outcomes last).notes ++ (c.shut final).1 ++
          lastNotes outcomes (plan.saving tree outcomes last).fault,
        (plan.saving tree outcomes last).tree, (plan.saving tree outcomes last).fault,
        (c.shut final).2⟩ := by
  rw [run, h]
  cases last with
  | none => rfl
  | some h => rfl

/-- Searches that are heard are carried, if their outcomes have the shape of JSON. -/
theorem SearchPlan.carried_of_heard {c : Connection σ} {fuel : Nat} {s : σ}
    {hearings : List Hearing} {last : Option Hearing}
    (h : Heard c.dispatcher plan fuel plan.searches.length 1 plan.searches s hearings last)
    (hshaped : ∀ h ∈ hearings, Json.Shaped (Report.record (h.outcome plan fuel)))
    (hopens : .json ∈ plan.formats → plan.opening tree = .ok (opened, place)) :
    plan.Carried c fuel tree place s hearings last := by
  obtain ⟨final, hrun, htranscribed⟩ := h.run
  have hplain := SearchPlan.run_eq c tree hrun
  have hwritten := SearchPlan.run_eq c.transcribed tree (htranscribed [])
  rw [List.nil_append] at hwritten
  have hwritable := Report.exists_fileText_iff (List.forall_mem_map.mpr hshaped)
  rw [List.forall_mem_map] at hwritable
  constructor
  · exact h.reaches.isPrefix
  · rintro rfl
    exact h.reaches.all
  · exact h.reaches.shown
  · exact h.reaches.unshown
  · exact h.ended
  · rw [hwritten, c.shut_transcribed]
  · rw [hwritten, hplain, c.shut_transcribed]
    exact ⟨rfl, rfl, rfl, rfl⟩
  · rw [hplain]
    exact ⟨final, rfl⟩
  · rintro stop ⟨⟩
    rw [hplain]
    exact ⟨rfl, rfl⟩
  · -- a run with an outcome that is not shown does not complete; any other one completes when
    -- saving does
    rw [hplain]
    cases last with
    | some stop => exact iff_of_false nofun fun h => nomatch h.1
    | none =>
      simp only [saving, true_and]
      by_cases hjson : .json ∈ plan.formats
      · rcases save_cases hjson (hopens hjson) with ⟨text, htext, hbytes, hfault, -⟩ |
          ⟨hnone, hfault⟩
        · exact iff_of_true hfault fun _ => hwritable.mp ⟨text, htext, hbytes⟩
        · exact iff_of_false hfault fun hall => hnone (hwritable.mpr (hall hjson))
      · have hunsaved := save_of_not_mem hjson tree (hearings.map (·.outcome plan fuel))
        exact iff_of_true (congrArg Saved.fault hunsaved) fun h => absurd h hjson
  · rw [hplain]
    intro hsaved hjson
    cases last with
    | some stop => cases hsaved
    | none =>
      rcases save_cases hjson (hopens hjson) with ⟨text, htext, -, -, hput⟩ | ⟨-, hfault⟩
      · exact ⟨text, htext, hput⟩
      · exact absurd hsaved hfault

/-- A plan with the searches and the options of accepted settings is carried over a connection that
    answers every request with JSON items or refuses it, if every pass ends. -/
theorem SearchPlan.exists_carried {settings : Config.Settings} (h : settings.Accepted)
    {plan : SearchPlan} (hsearches : plan.searches = settings.search.searches)
    (hoptions : plan.options = settings.search.collectOptions) {c : Connection σ} {s : σ}
    (hgives : c.dispatcher.Gives fun item => Json.Shaped (.map item))
    (hends : PassesEnd c.dispatcher plan.options plan.searches s)
    (hopens : .json ∈ plan.formats → plan.opening tree = .ok (opened, place)) :
    ∃ enough, ∀ fuel, enough ≤ fuel → ∃ hearings last,
      plan.Carried c fuel tree place s hearings last := by
  -- accepted settings make a pager for every search
  have hpagers (n : NamedSearch) : ∃ p, (n.pager plan.options).2 = .ok p := by
    obtain ⟨p, hp, -⟩ := h.pager n
    rw [hoptions]
    exact ⟨p, hp⟩
  obtain ⟨enough, hall⟩ := exists_hearings hgives hpagers plan.searches.length 1 hends
  refine ⟨enough, fun fuel hfuel => ?_⟩
  obtain ⟨hearings, last, hheard, hitems⟩ := hall fuel hfuel
  refine ⟨hearings, last, carried_of_heard hheard ?_ hopens⟩
  intro hearing hmem
  -- the outcome is one of a configured search, and its items come from the service
  have hreached : hearing ∈ hearings ++ last.toList := List.mem_append_left _ hmem
  have hconfigured : hearing.search ∈ settings.search.searches := by
    rw [← hsearches]
    exact hheard.reaches.isPrefix.subset (List.mem_map_of_mem hreached)
  refine Report.shaped_record ?_ (hitems hearing hreached)
  rw [hearing.outcome_search]
  exact h.searches _ hconfigured

/-- With accepted settings and a key the searches are set up. -/
theorem exists_searchSetup {settings : Config.Settings} (h : settings.Accepted)
    (hkey : settings.service.apiKey ≠ "") (stamp : Calendar.Moment) :
    ∃ client plan, searchSetup settings stamp = .ok (client, plan) ∧
      plan.searches = settings.search.searches ∧ plan.options = settings.search.collectOptions := by
  obtain ⟨client, hclient⟩ := h.client hkey
  obtain ⟨formats, hformats⟩ := h.chosenFormats
  rw [searchSetup, hclient, hformats]
  exact ⟨client, _, rfl, rfl, rfl⟩

/-- So they are, and over a connection that answers every request with JSON items or refuses it, on
    which every pass ends, all of them are carried. -/
theorem searches_carried {environment : Config.Environment} {raw : Record}
    {settings : Config.Settings} (h : Config.Settings.read environment raw = .ok settings)
    (hkey : settings.service.apiKey ≠ "") (stamp : Calendar.Moment) :
    ∃ client plan, searchSetup settings stamp = .ok (client, plan) ∧
      plan.searches = settings.search.searches ∧
      ∀ {σ : Type} (c : Connection σ) (tree opened : FileTree) (place : Place) (s : σ),
        c.dispatcher.Gives (fun item => Json.Shaped (.map item)) →
        PassesEnd c.dispatcher plan.options plan.searches s →
        (.json ∈ plan.formats → plan.opening tree = .ok (opened, place)) →
        ∃ enough, ∀ fuel, enough ≤ fuel →
          ∃ hearings last, plan.Carried c fuel tree place s hearings last := by
  have haccepted := Config.accepted_of_read h
  obtain ⟨client, plan, hsetup, hsearches, hoptions⟩ := exists_searchSetup haccepted hkey stamp
  refine ⟨client, plan, hsetup, hsearches, ?_⟩
  intro σ c tree opened place s hgives hends hopens
  exact SearchPlan.exists_carried haccepted hsearches hoptions hgives hends hopens

/-! ## A service for one item -/

/-- An item with a title and what the service says is its identifier. -/
def itemWith (uri : Data) : Record := .ofTexts [("uri", uri), ("title", .text "solar")]

/-- An item whose identifier is a text. -/
def shortItem : Record := itemWith (.text "1")

/-- An item whose identifier is a number of more digits than can be written out. -/
def longItem : Record := itemWith (.int (Int.ofNat (Nat.pow 10 4300)))

/-- The item is JSON. -/
theorem shaped_itemWith {uri : Data} (h : Json.Shaped uri) : Json.Shaped (.map (itemWith uri)) := by
  refine .map ?_ ?_
  · intro e he
    obtain ⟨pair, -, rfl⟩ := List.mem_map.mp he
    exact ⟨pair.1, rfl⟩
  · simp only [itemWith, Record.ofTexts, List.map_cons, List.map_nil, List.forall_mem_cons]
    exact ⟨h, .text _, fun pair h => absurd h List.not_mem_nil⟩

/-- Its texts have no surrogates. -/
theorem isEncodable_itemWith {uri : Data} (h : uri.IsEncodable) :
    (Data.map (itemWith uri)).IsEncodable := by
  have htext (s : String) (h : encodingFault? s = none) : Scalar.IsEncodable (.text s) := by
    rintro t ⟨⟩
    exact h
  rw [Data.IsEncodable, Data.every_map_iff]
  simp only [itemWith, Record.ofTexts, List.map_cons, List.map_nil, List.forall_mem_cons,
    Data.text, Data.every_scalar_iff]
  exact ⟨⟨htext _ (by decide), h⟩, ⟨htext _ (by decide), htext _ (by decide)⟩,
    fun e h => absurd h List.not_mem_nil⟩

/-- A section with the item; the service reports another one on a second page. -/
def soleSection (item : Record) : ResponseSection where
  name := .text "articles"
  items := [item]
  total := some 2
  page := none
  pages := some 2
  count := none
  error := none

/-- A service that refuses its second request and gives the same item for all others; its state
    is the number of requests. -/
def wearyService (item : Record) : Connection Nat where
  dispatcher := {
    ask _ _ s :=
      if s = 1 then ⟨.refused (.reported "overloaded" 3 none), [], s + 1⟩
      else
        let found : Response :=
          [(.text "articles", soleSection item), (.text "events", soleSection item)]
        ⟨.response found, [], s + 1⟩ }
  close s := (some "gone", s)

/-- It gives nothing else. -/
theorem wearyService_gives {P : Record → Prop} {item : Record} (h : P item) :
    (wearyService item).dispatcher.Gives P := by
  intro query wanted s
  by_cases hs : s = 1
  · simp only [wearyService, hs, if_true]
    exact .refused _
  · simp only [wearyService, hs, if_false]
    refine .response ?_
    simp [soleSection, h]

/-- The moment of a run. -/
def someNoon : Calendar.Moment where
  date := ⟨2024, 5, 6, by decide⟩
  time := ⟨12, 0, 0, 0, by decide⟩
  offset := none

open Config in
/-- Two searches are carried to the end by it. -/
theorem searches_carried_weekly :
    ∃ settings, Settings.read keyEnvironment (rawWith weeklyQueries) = .ok settings ∧
      settings.service.apiKey ≠ "" ∧
      ∃ client plan, searchSetup settings someNoon = .ok (client, plan) ∧
        plan.searches = settings.search.searches ∧ .json ∈ plan.formats ∧
        (wearyService shortItem).dispatcher.Gives (fun item => Json.Shaped (.map item)) ∧
        PassesEnd (wearyService shortItem).dispatcher plan.options plan.searches 0 ∧
        ∃ opened place, plan.opening (.ofTexts []) = .ok (opened, place) ∧
          ∃ enough, ∀ fuel, enough ≤ fuel → ∃ hearings last,
            plan.Carried (wearyService shortItem) fuel (.ofTexts []) place 0 hearings last := by
  -- the settings, the plan and what becomes of the passes are computed once, and then the general
  -- statement is applied to them
  have hread : ((Settings.read keyEnvironment (rawWith weeklyQueries)).toOption.map fun s =>
      (s.service.apiKey, (searchSetup s someNoon).toOption.map fun (_, plan) =>
        (plan.formats.contains .json,
          endWithin (wearyService shortItem).dispatcher plan.options 4 plan.searches 0,
          (plan.opening (.ofTexts [])).toOption.map fun _ => ()))) =
        some ("secret", some (true, true, some ())) := by decide +kernel
  obtain ⟨settings, hsettings, hfound⟩ := ok_of_toOption_map hread
  obtain ⟨hsecret, hplan⟩ := Prod.mk.inj hfound
  have hkey : settings.service.apiKey ≠ "" := by
    rw [hsecret]
    decide
  obtain ⟨client, plan, hsetup, hsearches, hcarried⟩ := searches_carried hsettings hkey someNoon
  rw [hsetup] at hplan
  obtain ⟨hjson, hfacts⟩ := Prod.mk.inj (Option.some.inj hplan)
  obtain ⟨hends, hopens⟩ := Prod.mk.inj hfacts
  obtain ⟨⟨opened, place⟩, hopening, -⟩ := ok_of_toOption_map hopens
  have hgives : (wearyService shortItem).dispatcher.Gives fun item => Json.Shaped (.map item) :=
    wearyService_gives (shaped_itemWith (.text "1"))
  have hpasses := passesEnd_of_endWithin hends
  exact ⟨settings, hsettings, hkey, client, plan, hsetup, hsearches, by simpa using hjson, hgives,
    hpasses, opened, place, hopening,
    hcarried (wearyService shortItem) _ opened place 0 hgives hpasses fun _ => hopening⟩

/-! ## Runs that do not complete -/

/-- With more pulls than are needed the searches are run as before. -/
theorem runSearches_of_le {d : Dispatcher σ} {plan : SearchPlan} {least fuel : Nat}
    (hle : least ≤ fuel) (total index : Nat) {searches : List NamedSearch} {s : σ}
    (h : endWithin d plan.options least searches s = true) :
    runSearches d plan fuel total index searches s =
      runSearches d plan least total index searches s := by
  induction searches generalizing index s with
  | nil => rfl
  | cons n rest ih =>
    simp only [endWithin] at h
    split at h
    · cases h
    · next hends =>
      -- the first search leaves the same state, and the others are run from there
      rw [runSearches, runSearches, NamedSearch.collect_of_le d hle hends, ih (index + 1) h]

/-- **A run that does not complete**: with these queries the settings are accepted and there is a
    key, the file can be opened and every pass over the connection ends, and yet a fault ends the
    run, however many pulls it may take. -/
def Aborts (c : Connection Nat) (queries : List Data) : Prop :=
  ∃ settings, Config.Settings.read Config.keyEnvironment (Config.rawWith queries) = .ok settings ∧
    settings.service.apiKey ≠ "" ∧
    ∃ client plan, searchSetup settings someNoon = .ok (client, plan) ∧
      (∃ opened place, plan.opening (.ofTexts []) = .ok (opened, place)) ∧
      PassesEnd c.dispatcher plan.options plan.searches 0 ∧
      ∃ enough, ∀ fuel, enough ≤ fuel → (plan.run c fuel (.ofTexts []) 0).fault ≠ none

/-- Four pulls for each search tell whether a run over settings with a key ends with a fault. -/
theorem aborts_of_found {c : Connection Nat} {queries : List Data}
    (h : ((Config.Settings.read Config.keyEnvironment (Config.rawWith queries)).toOption.map
      fun settings => (settings.service.apiKey,
        (searchSetup settings someNoon).toOption.map fun found =>
          (endWithin c.dispatcher found.2.options 4 found.2.searches 0,
            (found.2.opening (.ofTexts [])).toOption.isSome,
            (found.2.run c 4 (.ofTexts []) 0).fault.isSome))) =
      some ("secret", some (true, true, true))) : Aborts c queries := by
  obtain ⟨settings, hsettings, hfound⟩ := ok_of_toOption_map h
  obtain ⟨hsecret, hplan⟩ := Prod.mk.inj hfound
  obtain ⟨⟨client, plan⟩, hsetup, hfacts⟩ := ok_of_toOption_map hplan
  obtain ⟨hends, hothers⟩ := Prod.mk.inj hfacts
  obtain ⟨hopens, hfault⟩ := Prod.mk.inj hothers
  obtain ⟨⟨opened, place⟩, hopening⟩ := ok_of_isSome hopens
  refine ⟨settings, hsettings, ?_, client, plan, hsetup, ⟨opened, place, hopening⟩,
    passesEnd_of_endWithin hends, 4, ?_⟩
  · rw [hsecret]
    decide
  · -- with more pulls it is the same run
    intro fuel hfuel hnone
    rw [SearchPlan.run, runSearches_of_le hfuel _ _ hends, ← SearchPlan.run] at hnone
    rw [hnone] at hfault
    cases hfault

/-- A search for half a pair of surrogates. -/
def halfQueries : List Data :=
  [.map [(.text "keywords", .text (textOf [.surrogate 0xd800]))]]

/-- The items of a service are JSON without surrogates, and yet a run ends with a fault: that of a
    search for a surrogate when its outcome is saved, and that of any search when its outcome is
    shown and an item has a number that is too long. -/
theorem exists_aborted_run :
    (∀ item ∈ [shortItem, longItem], (wearyService item).dispatcher.Gives fun item =>
      Json.Shaped (.map item) ∧ (Data.map item).IsEncodable) ∧
    Aborts (wearyService shortItem) halfQueries ∧
    Aborts (wearyService longItem) Config.weeklyQueries := by
  have hshort : Data.IsEncodable (.text "1") := Data.every_scalar_iff.mpr (by rintro t ⟨⟩; decide)
  have hlong (n : Int) : Data.IsEncodable (.int n) := Data.every_scalar_iff.mpr nofun
  refine ⟨?_, aborts_of_found (by decide +kernel), aborts_of_found (by decide +kernel)⟩
  simp only [List.forall_mem_cons]
  exact ⟨wearyService_gives ⟨shaped_itemWith (.text _), isEncodable_itemWith hshort⟩,
    wearyService_gives ⟨shaped_itemWith (.int _), isEncodable_itemWith (hlong _)⟩,
    fun item h => absurd h List.not_mem_nil⟩

end NewsSearch.Command
