import NewsSearch.Fault
import NewsSearch.Journal

/-!
Values in words, and what cannot be put into words.

`Data.plain` and `Data.shown` write out everything in a value.  One thing in a value cannot be
written out: an integer of more than `Text.digitLimit` digits.  It may be the value itself, or stand
anywhere within it, as an element, under a key or as a key.  Such a value has no wording, and
whoever needs one is stopped by a fault: `Data.wording` is the wording or that fault, and messages
that quote a value ask `isTooLong` before they do.

The journal is more patient.  A note that should quote such a value is lost, and the program goes on
(`Note.quoting`, `Note.counting`).
-/

namespace NewsSearch

namespace Scalar

mutual

/-- Whether an integer in the scalar has too many digits to be written out. -/
def isTooLong : Scalar → Bool
  | int n => Json.isTooLong n
  | tuple items => anyTooLong items
  | _ => false

/-- Whether one of the scalars cannot be written out. -/
def anyTooLong : List Scalar → Bool
  | [] => false
  | item :: rest => isTooLong item || anyTooLong rest

end

end Scalar

namespace Data

mutual

/-- Whether an integer in the value, be it a key, has too many digits to be written out. -/
def isTooLong : Data → Bool
  | scalar s => s.isTooLong
  | list items => anyTooLong items
  | tuple items => anyTooLong items
  | map entries => anyEntryTooLong entries

/-- Whether one of the items cannot be written out. -/
def anyTooLong : List Data → Bool
  | [] => false
  | item :: rest => isTooLong item || anyTooLong rest

/-- Whether a key or a value among the entries cannot be written out. -/
def anyEntryTooLong : List (Scalar × Data) → Bool
  | [] => false
  | (k, v) :: rest => k.isTooLong || isTooLong v || anyEntryTooLong rest

end

/-- Items can be written out when each of them can. -/
@[simp] theorem anyTooLong_eq_false_iff {items : List Data} :
    anyTooLong items = false ↔ ∀ d ∈ items, d.isTooLong = false := by
  induction items with
  | nil => simp [anyTooLong]
  | cons item rest ih => simp [anyTooLong, ih]

/-- Entries can be written out when each of their keys and values can. -/
@[simp] theorem anyEntryTooLong_eq_false_iff {entries : List (Scalar × Data)} :
    anyEntryTooLong entries = false ↔
      ∀ e ∈ entries, e.1.isTooLong = false ∧ e.2.isTooLong = false := by
  induction entries with
  | nil => simp [anyEntryTooLong]
  | cons e rest ih => simp [anyEntryTooLong, ih, and_assoc]

/-- The value as text of its own, if everything in it can be written out. -/
def wording (d : Data) : Except Fault String :=
  if d.isTooLong then .error (.type (.json .integer)) else .ok d.plain

end Data

namespace Note

/-- A note that quotes a value; it is lost when the value cannot be written out. -/
def quoting (d : Data) (note : Note) : List Note := if d.isTooLong then [] else [note]

/-- A note that tells some integers, each of which may be missing; it is lost when one of them
    cannot be written out. -/
def counting (counts : List (Option Int)) (note : Note) : List Note :=
  if counts.any (·.any Json.isTooLong) then [] else [note]

end Note

example : (Data.map [(.int 1, .list [.text "a"])]).isTooLong = false := by decide

end NewsSearch
