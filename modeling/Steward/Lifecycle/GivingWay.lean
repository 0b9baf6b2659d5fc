import Steward.Lifecycle.Call

/-!
# Giving Way

The steps of a call that leaves its turn to others.

A stop or a question for the health may find very many tasks that have ended. It
need not look at all of them in one go. When it breaks off, what it was about to
look at is put aside, and from there it comes back at some later moment.

## Main definitions

* `System.setAside`: A call gives way.
* `System.bringBack`: What it put aside comes back.
-/

namespace Steward.System

variable {ι : Type}

/-- A call gives way and puts aside what it was about to look at. -/
def setAside (s : System ι) (call : Nat) : StepResult ι :=
  match s.calls[call]? with
  | some (.stopping (.closing tasks tray causes)) =>
    tray.setAside?.map fun tray => (s.setStop call (.closing tasks tray causes), [.gaveWay call])
  | some (.checking (.probing tasks tray tally)) =>
    tray.setAside?.map fun tray => (s.setStatus call (.probing tasks tray tally), [.gaveWay call])
  | _ => none

/-- What a call put aside last comes back. -/
def bringBack (s : System ι) (call : Nat) : StepResult ι :=
  match s.calls[call]? with
  | some (.stopping (.closing tasks tray causes)) =>
    tray.bringBack?.map fun tray => (s.setStop call (.closing tasks tray causes), [.woken call])
  | some (.checking (.probing tasks tray tally)) =>
    tray.bringBack?.map fun tray => (s.setStatus call (.probing tasks tray tally), [.woken call])
  | _ => none

end Steward.System
