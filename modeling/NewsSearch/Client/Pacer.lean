import NewsSearch.Client.Seconds
import NewsSearch.Fault

/-!
The pacer: a least delay between two requests.

Whoever is about to send a request waits first.  The first wait is over at once; every later one is
over no earlier than the least delay after the previous one was over.
-/

namespace NewsSearch

variable {τ : Type} [Seconds τ]

/-- A pacer: its least delay, and the time before which the next wait is not over. -/
structure Pacer (τ : Type) where
  minDelay : τ
  nextAllowed : Option τ

/-- What a wait gives: how long it slept, if it had to, the time when it is over, and the pacer
    afterwards. -/
structure Waited (τ : Type) where
  slept : Option τ
  now : τ
  pacer : Pacer τ

namespace Pacer

/-- A pacer with this least delay, which must not be negative. -/
def make (minDelay : τ) : Except Fault (Pacer τ) :=
  if minDelay < Seconds.ofNat 0 then .error (.value .minDelay) else .ok ⟨minDelay, none⟩

/-- How long a wait that begins now has to sleep, if it has to. -/
def sleepAt (p : Pacer τ) (now : τ) : Option τ :=
  match p.nextAllowed with
  | some next => if now < next then some (next - now) else none
  | none => none

/-- Waits, beginning now. -/
def wait (p : Pacer τ) (now : τ) : Waited τ :=
  let slept := p.sleepAt now
  let later := match slept with
    | some pause => now + pause
    | none => now
  ⟨slept, later, { p with nextAllowed := some (later + p.minDelay) }⟩

end Pacer

end NewsSearch
