import NewsSearch.Text.CodePoint

/-!
Likeness of texts.

Two texts are alike as far as they have code points in common: their longest common run, and in the
same way what lies before it and what lies behind it in both.
-/

namespace NewsSearch.Text

/-- The number of code points that two texts have in common at their beginnings. -/
def commonStart : List CodePoint → List CodePoint → Nat
  | a :: as, b :: bs => if a = b then commonStart as bs + 1 else 0
  | _, _ => 0

/-- A run of code points that stands in two texts: where it begins in each, and its length. -/
structure Run where
  left : Nat
  right : Nat
  length : Nat

/-- The longest common run; of several, the one that begins first in `a`, then in `b`. -/
def longestRun (a b : List CodePoint) : Run :=
  (List.range a.length).foldl (fun best i =>
    (List.range b.length).foldl (fun best j =>
      let length := commonStart (a.drop i) (b.drop j)
      if best.length < length then ⟨i, j, length⟩ else best) best) ⟨0, 0, 0⟩

/-- The number of code points that two texts have in common in order, run by run. -/
def inCommon : Nat → List CodePoint → List CodePoint → Nat
  | 0, _, _ => 0
  | fuel + 1, a, b =>
    let run := longestRun a b
    if run.length = 0 then 0
    else
      inCommon fuel (a.take run.left) (b.take run.right) + run.length +
        inCommon fuel (a.drop (run.left + run.length)) (b.drop (run.right + run.length))

/-- Whether two texts are alike: at least three fifths of their code points are in common. -/
def areAlike (a b : List CodePoint) : Bool :=
  3 * (a.length + b.length) ≤ 10 * inCommon (a.length + 1) a b

/-- The texts that are like a given one. -/
def alikeAmong (texts : List String) (given : String) : List String :=
  texts.filter fun text => areAlike (codePoints text.toList) (codePoints given.toList)

example : alikeAmong ["--config"] "--confg" = ["--config"] := by decide +kernel
example : alikeAmong ["--config"] "--x" = [] := by decide +kernel
example : alikeAmong ["compile", "search"] "compilesearch" = ["compile", "search"] := by
  decide +kernel

end NewsSearch.Text
