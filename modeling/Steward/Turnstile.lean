/-!
# A Turnstile

Lets one call through at a time, in the order in which they came.

A call that finds the turnstile free passes and holds it until it leaves. The
others wait in line, and whoever leaves hands the turnstile to the first of
them. It is never free while somebody waits, so nobody can overtake.

## Main definitions

* `Turnstile`: Who holds it and who waits.
* `Turnstile.enter`, `Turnstile.leave`: Coming and going.

## Theorems

* `wellFormed_enter`, `wellFormed_leave`: It is never free while somebody waits.
-/

namespace Steward

/-- Who holds the turnstile, and who waits in line for it. -/
structure Turnstile where
  holder : Option Nat := none
  waiting : List Nat := []
deriving DecidableEq, Repr

namespace Turnstile

/-- A call comes. It passes if the turnstile is free and joins the line if it is
    not. -/
def enter (t : Turnstile) (call : Nat) : Turnstile :=
  match t.holder with
  | none => { t with holder := some call }
  | some _ => { t with waiting := t.waiting ++ [call] }

/-- The holder leaves and hands the turnstile to the first in line. -/
def leave (t : Turnstile) : Turnstile :=
  ⟨t.waiting.head?, t.waiting.tail⟩

/-- Nobody waits at a free turnstile. -/
def WellFormed (t : Turnstile) : Prop :=
  t.holder = none → t.waiting = []

/-- Coming keeps the turnstile in order. -/
theorem wellFormed_enter (t : Turnstile) (call : Nat) :
    (t.enter call).WellFormed := by
  unfold enter
  split
  · exact fun hn => absurd hn (by simp)
  · exact fun hn => absurd hn (by simp [*])

/-- Going keeps the turnstile in order. -/
theorem wellFormed_leave (t : Turnstile) : t.leave.WellFormed := by
  intro h
  cases hw : t.waiting with
  | nil => simp [leave, hw]
  | cons a rest => simp [leave, hw] at h

end Turnstile

end Steward
