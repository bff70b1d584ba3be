import NewsSearch.Calendar.Moment
import NewsSearch.Number.Shortest
import NewsSearch.Text.Quoted

/-!
Scalars: the values that nothing can be added to, which are also the keys of mappings.

Configuration files and service responses are loosely typed, so a scalar may be nothing, a truth
value, a number, a text, a day or a moment; a tuple of scalars serves as a key as well.  Whatever
else may be handed in is kept as a whole, by the name of its type and by the way in which messages
show it.  This file gives the three things that are asked of any scalar: whether two count as the
same, whether one counts as true, and how one is shown.

Truth values count as the numbers 0 and 1, and a number is the same whether it is written as an
integer or as a decimal.
-/

namespace NewsSearch

open Calendar Number Text

/-- A value that may be a key. -/
inductive Scalar where
  | null
  | bool (b : Bool)
  | int (n : Int)
  | float (x : Float)
  | text (s : String)
  | date (d : Date)
  | moment (m : Moment)
  /-- A tuple; as a value of its own it is no scalar. -/
  | tuple (items : List Scalar)
  /-- A value of another type, which is told from others by how it is shown. -/
  | other (typeName shown : String)

namespace Scalar

/-- The name of a scalar's type. -/
def typeName : Scalar → String
  | null => "NoneType"
  | bool _ => "bool"
  | int _ => "int"
  | float _ => "float"
  | text _ => "str"
  | date _ => "date"
  | moment _ => "datetime"
  | tuple _ => "tuple"
  | other typeName _ => typeName

/-- The name of a scalar's type with the family it belongs to, where the family has a name. -/
def fullTypeName : Scalar → String
  | date _ => "datetime.date"
  | moment _ => "datetime.datetime"
  | s => s.typeName

/-- Whether the scalar counts as true: everything does but nothing, falsehood, zero, the empty text
    and the empty tuple. -/
def truthy : Scalar → Bool
  | null => false
  | bool b => b
  | int n => n != 0
  | float x => !(x == 0)
  | text s => s != ""
  | tuple items => !items.isEmpty
  | date _ | moment _ | other .. => true

/-- The integer that a truth value or an integer stands for. -/
def integer? : Scalar → Option Int
  | bool b => some (if b then 1 else 0)
  | int n => some n
  | _ => none

mutual

/-- Whether two scalars count as the same. -/
def same : Scalar → Scalar → Bool
  | null, null => true
  | text a, text b => a == b
  | date a, date b => a == b
  | moment a, moment b => a.same b
  | tuple as, tuple bs => sameItems as bs
  | other s a, other t b => s == t && a == b
  | float x, float y => x == y
  | float x, b => match b.integer? with
    | some n => equalsInt x n
    | none => false
  | a, float y => match a.integer? with
    | some n => equalsInt y n
    | none => false
  | a, b => match a.integer?, b.integer? with
    | some m, some n => m == n
    | _, _ => false

/-- Whether two lists have the same scalars in order. -/
def sameItems : List Scalar → List Scalar → Bool
  | [], [] => true
  | a :: as, b :: bs => same a b && sameItems as bs
  | _, _ => false

end

/-- A text is the same as an equal text only. -/
@[simp] theorem same_text (a b : String) : same (.text a) (.text b) = (a == b) := rfl

/-- The moment as the call that builds it. -/
def shownMoment (m : Moment) : String :=
  let clock := [m.time.hour, m.time.minute] ++
    (if m.time.microsecond ≠ 0 then [m.time.second, m.time.microsecond]
     else if m.time.second ≠ 0 then [m.time.second] else [])
  let numbers := [m.date.year, m.date.month, m.date.day] ++ clock
  let zone := match m.offset with
    | none => ""
    | some 0 => ", tzinfo=datetime.timezone.utc"
    | some offset => ", tzinfo=datetime.timezone(" ++ shownSpan offset ++ ")"
  "datetime.datetime(" ++ ", ".intercalate (numbers.map natText) ++ zone ++ ")"

/-- The items of a tuple in parentheses; a lone item is followed by a comma. -/
def parenthesized : List String → String
  | [item] => "(" ++ item ++ ",)"
  | items => "(" ++ ", ".intercalate items ++ ")"

mutual

/-- The scalar as messages show it inside other values. -/
def shown : Scalar → String
  | null => "None"
  | bool b => if b then "True" else "False"
  | int n => intText n
  | float x => shortestText x
  | text s => quoted s
  | date d =>
    "datetime.date(" ++ ", ".intercalate ([d.year, d.month, d.day].map natText) ++ ")"
  | moment m => shownMoment m
  | tuple items => parenthesized (shownItems items)
  | other _ shown => shown

/-- Each scalar as shown. -/
def shownItems : List Scalar → List String
  | [] => []
  | item :: rest => shown item :: shownItems rest

end

/-- The scalar as text of its own: a text is itself, and a day or a moment is written in the
    international notation. -/
def plain : Scalar → String
  | text s => s
  | date d => d.iso
  | moment m => m.text " "
  | s => s.shown

end Scalar

example : (Scalar.bool true).same (.int 1) = true := by decide
example : (Scalar.text "1").same (.int 1) = false := by decide
example : Scalar.shown (.text "a") = "'a'" := by decide +kernel

end NewsSearch
