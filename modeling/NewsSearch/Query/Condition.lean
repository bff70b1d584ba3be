import NewsSearch.Calendar.Iso
import NewsSearch.Query.Argument
import NewsSearch.Text.Blank

/-!
Checked conditions.

A value given for a field is brought into the form in which it is sent to the service: a date as
`YYYY-MM-DD`, a count as a non-negative integer, and a token or URI as a text without blanks around
it that is not empty.  A modifier must belong to the field and have one of its allowed values.
`Condition.make` checks the modifiers first, in order, and then the value.
-/

namespace NewsSearch

open Calendar Text

/-- The day that a value names, in the form in which it is sent. -/
def dateText [MomentReader] (a : Argument) : Except DateFault String :=
  match a with
  | .data (.moment m) => .ok m.date.wire
  | .data (.date d) => .ok d.wire
  | .data (.text s) =>
    let body := strip s
    if body.isEmpty then .error .blank
    else if isCalendarDate body.toList then
      match readMoment? body with
      | some m => .ok m.date.wire
      | none => .error (.unreadable s)
    else .error (.notCalendarDate s)
  | _ => .error (.notDate a.typeName)

namespace Field

/-- The refusal of what is no integer.  It quotes the value, and when the value cannot be written
    out that is the fault instead. -/
def notCount (f : Field) (a : Argument) : Fault :=
  if a.isTooLong then .type (.json .integer) else .expression (.notInteger f.key a.shown)

/-- The value in the form in which it is sent, if it is one for this field. -/
def normalizeValue [MomentReader] (f : Field) (a : Argument) : Except Fault Data :=
  match f.kind with
  | .date => ((dateText a).map Data.text).mapError .date
  | .count =>
    match a with
    | .data (.int n) =>
      if n < 0 then .error (.expression (.negative f.key)) else .ok (.int n)
    | _ => .error (f.notCount a)
  | .uri | .token =>
    match a with
    | .data (.text s) =>
      let body := strip s
      if body.isEmpty then .error (.expression (.blankValue f.key)) else .ok (.text body)
    | _ => .error (.expression (.notText f.key a.typeName))

/-- The value of the modifier `name`, if it may be applied to this field with this value. -/
def checkModifier (f : Field) (name : String) (a : Argument) : Except Fault Data :=
  if f.modifier ≠ some name then .error (.expression (.strayModifier name f.key))
  else if name = keywordLocation then
    match a.unhashable? with
    | some typeName => .error (.type (.unhashable typeName))
    | none =>
      match a with
      | .data (.text s) =>
        if keywordLocations.contains s then .ok (.text s) else .error (.expression .location)
      | _ => .error (.expression .location)
  else
    match a with
    | .data (.bool b) => .ok (.bool b)
    | _ => .error (.expression (.notTruthValue name))

/-- Each modifier checked, in order. -/
def checkModifiers (f : Field) : List (String × Argument) → Except Fault (List (String × Data))
  | [] => .ok []
  | (name, a) :: rest => do
    let value ← f.checkModifier name a
    let others ← checkModifiers f rest
    .ok ((name, value) :: others)

end Field

/-- Pairs in the alphabetical order of their names. -/
def sortedByName (pairs : List (String × Data)) : List (String × Data) :=
  pairs.mergeSort fun a b => decide (a.1 ≤ b.1)

/-- The condition that the field has the value, with the modifiers. -/
def Condition.make [MomentReader] (f : Field) (value : Argument)
    (modifiers : List (String × Argument)) : Except Fault Condition := do
  let checked ← f.checkModifiers modifiers
  let sent ← f.normalizeValue value
  .ok ⟨f.key, sent, sortedByName checked⟩

/-- The condition on the field of the given name.  Two names cannot be used for modifiers, because
    the condition takes its field and its value under them. -/
def Condition.ofKey [MomentReader] (key : String) (value : Argument)
    (modifiers : List (String × Argument)) : Except Fault Condition :=
  match modifiers.find? fun (name, _) => name = "key" || name = "value" with
  | some (name, _) => .error (.type (.takenName "condition" name))
  | none =>
    match Field.ofKey? key with
    | some f => Condition.make f value modifiers
    | none => .error (.expression (.unknownField key))

end NewsSearch
