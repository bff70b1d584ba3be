import NewsSearch.Fault

/-!
Steps that may be refused.

Most of the library is a sequence of checks, each of which passes a value on or refuses.  What the
theory knows about such a sequence is nearly always this: it was accepted, so each of its steps was.
The lemmas `bind_eq_ok_iff`, `map_eq_ok_iff`, `mapError_eq_ok_iff` and `check_eq_ok_iff` peel off
one step at a time, so that no proof has to unfold a sequence.

The other thing to know is with which faults a sequence can refuse (`RefusesOnly`): those of its
steps.  There is one lemma for each way in which steps are put together.

Where a fixed value has to be found by evaluation, `ok_of_toOption_map` turns what was evaluated
into a statement about the step.
-/

namespace NewsSearch

variable {ε δ α β : Type}

/-- A step after another one is accepted when both are. -/
theorem bind_eq_ok_iff {x : Except ε α} {f : α → Except ε β} {b : β} :
    (x >>= f) = .ok b ↔ ∃ a, x = .ok a ∧ f a = .ok b := by
  cases x <;> simp [bind, Except.bind]

/-- Changing the value of a step does not change whether it is accepted. -/
theorem map_eq_ok_iff {x : Except ε α} {f : α → β} {b : β} :
    x.map f = .ok b ↔ ∃ a, x = .ok a ∧ f a = b := by
  cases x <;> simp [Except.map]

/-- Changing the fault of a step does not change whether it is accepted. -/
theorem mapError_eq_ok_iff {x : Except ε α} {f : ε → δ} {a : α} :
    x.mapError f = .ok a ↔ x = .ok a := by
  cases x with
  | error fault => constructor <;> (intro h; cases h)
  | ok b => constructor <;> (intro h; cases h; rfl)

/-- Steps behind a check are accepted when the check does not refuse. -/
theorem check_eq_ok_iff {p : Prop} [Decidable p] {fault : ε} {f : α → Except ε β}
    {x : Except ε β} {b : β} :
    (if p then Except.error fault >>= f else x) = .ok b ↔ ¬p ∧ x = .ok b := by
  by_cases hp : p <;> simp [hp, bind, Except.bind]

/-- Steps for each of some values are accepted when every one of them is, if it is known when a step
    is accepted and what it gives then. -/
theorem mapM_eq_ok_iff {f : α → Except ε β} {p : α → Prop} {g : α → β} {as : List α}
    (h : ∀ a ∈ as, ∀ b, f a = .ok b ↔ p a ∧ b = g a) {bs : List β} :
    as.mapM f = .ok bs ↔ (∀ a ∈ as, p a) ∧ bs = as.map g := by
  induction as generalizing bs with
  | nil => simp [pure, Except.pure, eq_comm]
  | cons a rest ih =>
    obtain ⟨hfirst, hrest⟩ := List.forall_mem_cons.mp h
    simp only [List.mapM_cons, bind_eq_ok_iff, hfirst, ih hrest, pure, Except.pure,
      Except.ok.injEq, List.forall_mem_cons, List.map_cons]
    constructor
    · rintro ⟨_, ⟨ha, rfl⟩, _, ⟨hothers, rfl⟩, rfl⟩
      exact ⟨⟨ha, hothers⟩, rfl⟩
    · rintro ⟨⟨ha, hothers⟩, rfl⟩
      exact ⟨_, ⟨ha, rfl⟩, _, ⟨hothers, rfl⟩, rfl⟩

/-- What an evaluation finds of a value shows that the value is there. -/
theorem ok_of_toOption_map {x : Except ε α} {f : α → β} {b : β}
    (h : x.toOption.map f = some b) : ∃ a, x = .ok a ∧ f a = b := by
  cases x with
  | error fault => cases h
  | ok a => exact ⟨a, rfl, Option.some.inj h⟩

/-- It is enough that something is found. -/
theorem ok_of_isSome {x : Except ε α} (h : x.toOption.isSome = true) : ∃ a, x = .ok a := by
  cases x with
  | error fault => cases h
  | ok a => exact ⟨a, rfl⟩

/-! ## Refusals

A property of faults is carried through a sequence of steps. -/

/-- If the step refuses, then with such a fault. -/
def RefusesOnly (P : ε → Prop) (x : Except ε α) : Prop := ∀ fault, x = .error fault → P fault

namespace RefusesOnly

variable {P Q : ε → Prop} {x : Except ε α}

/-- An accepted step does not refuse. -/
theorem ok (a : α) : RefusesOnly P (.ok a : Except ε α) := fun _ h => by cases h

/-- A step that refuses with such a fault. -/
theorem error {fault : ε} (h : P fault) : RefusesOnly P (.error fault : Except ε α) :=
  fun _ heq => by cases heq; exact h

/-- A weaker property will do. -/
theorem mono (h : RefusesOnly P x) (hPQ : ∀ fault, P fault → Q fault) : RefusesOnly Q x :=
  fun fault hfault => hPQ fault (h fault hfault)

/-- A step after another one: the faults are those of either. -/
theorem bind {f : α → Except ε β} (hx : RefusesOnly P x)
    (hf : ∀ a, x = .ok a → RefusesOnly P (f a)) : RefusesOnly P (x >>= f) := by
  cases x with
  | error fault => exact fun _ heq => hx _ (by cases heq; rfl)
  | ok a => exact hf a rfl

/-- Steps behind a check. -/
theorem check {p : Prop} [Decidable p] {fault : ε} {f : β → Except ε α} (hfault : P fault)
    (hx : RefusesOnly P x) : RefusesOnly P (if p then Except.error fault >>= f else x) := by
  split
  · exact error hfault
  · exact hx

/-- Changing the value of a step leaves its faults. -/
theorem map {f : α → β} (hx : RefusesOnly P x) : RefusesOnly P (x.map f) := by
  cases x with
  | error fault => exact fun _ heq => hx _ (by cases heq; rfl)
  | ok a => exact ok _

/-- Changing the fault of a step. -/
theorem mapError {R : δ → Prop} {f : ε → δ} (hx : RefusesOnly P x)
    (hf : ∀ fault, P fault → R (f fault)) : RefusesOnly R (x.mapError f) := by
  cases x with
  | error fault => exact error (hf fault (hx fault rfl))
  | ok a => exact ok a

/-- A step that is not accepted has refused, with such a fault. -/
theorem cases (h : RefusesOnly P x) : (∃ a, x = .ok a) ∨ ∃ fault, x = .error fault ∧ P fault := by
  cases x with
  | error fault => exact Or.inr ⟨fault, rfl, h fault rfl⟩
  | ok a => exact Or.inl ⟨a, rfl⟩

end RefusesOnly

end NewsSearch
