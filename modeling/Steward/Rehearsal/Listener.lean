import Steward.Log
import Steward.Mailbox

/-!
# Listeners

Subscribers on a stage.

One kind writes a line of the log for every event. The other, a recorder,
follows instructions: for some kinds of event its worker comes to its end, for
others it breaks off, as often as it was told to, and before all that it may
wait for a gate. What it takes without trouble it records.

## Main definitions

* `Recorder`: A subscriber with instructions.
* `Listener`: A subscriber on a stage.
* `Listener.take`: It handles an event.
* `Engagement`, `engaged`: How a service comes by its subscribers.
-/

namespace Steward.Rehearsal

/-- A subscriber that does what it was told and records the rest. -/
structure Recorder where
  /-- Its number among all recorders. -/
  index : Nat
  name : String
  capacity : Nat
  /-- The gate that it waits for before it handles an event. -/
  hold : Option String := none
  /-- The kinds of event for which it breaks off. -/
  panicOn : List EventKind := []
  panic : Panic := .mute
  /-- How often it still breaks off, if not for ever. -/
  panicsLeft : Option Nat := none
  /-- The kinds of event for which its worker comes to its end. -/
  diesOn : List EventKind := []
  /-- Whether only the number of its records is of interest. -/
  countOnly : Bool := false
  /-- What it has recorded since it was last looked at. -/
  seen : List Event := []
deriving DecidableEq, Repr

/-- A subscriber on a stage. -/
inductive Listener where
  | logWriter
  | recorder (recorder : Recorder)
deriving DecidableEq, Repr

namespace Listener

/-- How many events a subscriber has room for unless it says otherwise. -/
def standardCapacity : Nat := 1024

/-- The name and the capacity under which a subscriber is known. -/
def terms : Listener → String × Nat
  | .logWriter => (Event.logWriterName, standardCapacity)
  | .recorder r => (r.name, r.capacity)

/-- Whether the worker comes to its end over an event. -/
def dies (l : Listener) (e : Event) : Bool :=
  match l with
  | .logWriter => false
  | .recorder r => r.diesOn.contains e.kind

/-- The gate that is waited for before an event is handled. -/
def hold? : Listener → Option String
  | .logWriter => none
  | .recorder r => r.hold

/-- An event is handled: how that ends, the subscriber afterwards, and the lines
    written to the log. -/
def take (l : Listener) (e : Event) : Handling × Listener × List LogLine :=
  match l with
  | .logWriter => (.handled, l, [e.logLine])
  | .recorder r =>
    if r.panicOn.contains e.kind && r.panicsLeft != some 0 then
      (.panicked r.panic, .recorder { r with panicsLeft := r.panicsLeft.map (· - 1) }, [])
    else (.handled, .recorder { r with seen := r.seen ++ [e] }, [])

/-- Recorders get their numbers, from a first one on. The next free number comes
    with them. -/
def number (first : Nat) : List Listener → List Listener × Nat
  | [] => ([], first)
  | .logWriter :: rest =>
    let (rest, next) := number first rest
    (.logWriter :: rest, next)
  | .recorder r :: rest =>
    let (rest, next) := number (first + 1) rest
    (.recorder { r with index := first } :: rest, next)

end Listener

/-- One word about who the subscribers of a service are to be. -/
inductive Engagement where
  /-- They are to be these, and no others. -/
  | replace (listeners : List Listener)
  /-- There is to be one more. -/
  | add (listener : Listener)
deriving DecidableEq, Repr

/-- The subscribers that a row of such words leads to. All recorders are numbered
    in the order in which they were mentioned, also those that were replaced. -/
def engaged (words : List Engagement) : List Listener :=
  (words.foldl (fun (kept, next) word =>
    match word with
    | .replace listeners => Listener.number next listeners
    | .add l =>
      let (more, next) := Listener.number next [l]
      (kept ++ more, next)) (([], 0) : List Listener × Nat)).1

end Steward.Rehearsal
