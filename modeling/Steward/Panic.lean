import Steward.Text.Quoted

/-!
# Panics

What a participant or a subscriber leaves behind when it breaks off in the
middle of a call.

A panic carries a text or nothing that can be shown. Where the call was awaited
directly the panic is caught and its text is reported (`Panic.message`). Where
the call ran in a task of its own, the task dies and whoever joins it learns
which task it was (`Panic.ofTask`).

## Main definitions

* `Panic`: The payload of a panic.
* `Panic.message`: The text to report for it.
* `Panic.ofTask`: The text a joined task leaves when it died of a panic.
* `Attempt`: A value, or the panic that came instead of it.
-/

namespace Steward

/-- The payload of a panic. -/
inductive Panic where
  /-- The panic carries a text. -/
  | text (message : String)
  /-- The panic carries something that has no text. -/
  | mute
deriving DecidableEq, Repr

/-- The outcome of code that is not ours: its value, or the panic that came
    instead. -/
abbrev Attempt (α : Type) := Except Panic α

namespace Panic

/-- The text to report for a panic. -/
def message : Panic → String
  | .text m => m
  | .mute => "unknown panic"

/-- What is left of a task that died of a panic. A text is shown in quotes, a
    payload without one is passed over. -/
def ofTask (task : Nat) : Panic → String
  | .text m => "task " ++ toString task ++ " panicked with message " ++ Text.quoted m
  | .mute => "task " ++ toString task ++ " panicked"

end Panic

end Steward
