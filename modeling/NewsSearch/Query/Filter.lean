import NewsSearch.Query.Argument
import NewsSearch.Query.Key

/-!
Result filters.

Article searches can leave out duplicates, articles that have duplicates, and articles without an
event.  Each of the three filters has a name, the parameter under which searches give it, and three
settings.  `parse` accepts a mapping from names to settings; `ofParams` accepts the parameters.
-/

namespace NewsSearch

/-- The filters of a search: names and settings in order. -/
abbrev Filters := List (String × String)

namespace Filters

/-- The settings that each filter takes, in alphabetical order. -/
def settings : List (String × List String) := [
  ("isDuplicate", ["keepAll", "keepOnlyDuplicates", "skipDuplicates"]),
  ("hasDuplicate", ["keepAll", "keepOnlyHasDuplicates", "skipHasDuplicates"]),
  ("hasEvent", ["keepAll", "keepOnlyArticlesWithoutEvent", "skipArticlesWithoutEvent"])]

/-- The parameters under which searches give filters, each with the name of its filter. -/
def params : List (String × String) := [
  ("is_duplicate_filter", "isDuplicate"),
  ("has_duplicate_filter", "hasDuplicate"),
  ("event_filter", "hasEvent")]

/-- Whether a name and a setting form a filter. -/
def IsFilter (name setting : String) : Prop :=
  ∃ allowed, settings.lookup name = some allowed ∧ setting ∈ allowed

/-- The filter with this name and setting. -/
def check (name : Scalar) (setting : Argument) : Except Fault (String × String) :=
  match name with
  | .text filter =>
    match settings.lookup filter with
    | none => .error (.document (.filter (.unknown filter)))
    | some allowed =>
      match setting.unhashable? with
      | some typeName => .error (.type (.unhashable typeName))
      | none =>
        match setting with
        | .data (.text s) =>
          if allowed.contains s then .ok (filter, s)
          else .error (.document (.filter (.setting filter allowed)))
        | _ => .error (.document (.filter (.setting filter allowed)))
  | _ => .error (name.named fun name => .document (.filter (.unknown name)))

/-- The filters in the entries of a mapping, checked in order. -/
def parseEntries : List (Scalar × Argument) → Except Fault Filters
  | [] => .ok []
  | (name, setting) :: rest => do
    let filter ← check name setting
    let others ← parseEntries rest
    .ok (filter :: others)

/-- The filters in a mapping; nothing stands for no filters. -/
def parse (a : Argument) : Except Fault Filters :=
  if a.isNull then .ok []
  else
    match a.entries? with
    | some entries => parseEntries entries
    | none => .error (.document (.filter .notAnObject))

/-- A fault in a filter given as a parameter is a fault of the expression. -/
def asExpressionFault : Fault → Fault
  | .document (.filter fault) => .expression (.filter fault)
  | fault => fault

/-- The filters given as parameters; those that are nothing are left out. -/
def ofParams (given : List (String × Argument)) : Except Fault Filters :=
  let entries := given.filterMap fun (param, a) =>
    if a.isNull then none else (params.lookup param).map fun name => (Scalar.text name, a)
  (parseEntries entries).mapError asExpressionFault

/-- Sets one filter: in place when there is one of that name, otherwise at the end. -/
def set (name setting : String) : Filters → Filters
  | [] => [(name, setting)]
  | (n, s) :: rest => if n = name then (n, setting) :: rest else (n, s) :: set name setting rest

/-- Sets every filter of `changes` in order. -/
def update (fs changes : Filters) : Filters :=
  changes.foldl (fun fs (name, setting) => set name setting fs) fs

/-- The filters as the entries of a document. -/
def document (fs : Filters) : Record := fs.map fun (name, setting) => (.text name, .text setting)

/-- A filter that is accepted has a known name and one of its settings. -/
theorem isFilter_of_check {name : Scalar} {setting : Argument} {n s : String}
    (h : check name setting = .ok (n, s)) : IsFilter n s := by
  unfold check at h
  split at h
  · next filter =>
    split at h
    · cases h
    · next allowed hallowed =>
      split at h
      · cases h
      · split at h
        · next t =>
          split at h
          · next ht =>
            simp only [Except.ok.injEq, Prod.mk.injEq] at h
            obtain ⟨rfl, rfl⟩ := h
            exact ⟨allowed, hallowed, by simpa using ht⟩
          · cases h
        · cases h
  · cases h

end Filters

end NewsSearch
