import Steward.Event
import Steward.Panic

/-!
# Mailboxes

Where a subscriber gets its events from.

Every subscriber has a queue of its own and a worker that takes one event after
the other off it. The queue has room for a fixed number of events, at least one;
the event the worker is busy with is no longer in it. An event that finds no
room is refused at once, so nobody who publishes ever waits for a subscriber.

A worker can come to its end before its time. Then its queue is gone with all
that was in it, and whatever is sent is refused.

## Main definitions

* `Mailbox`, `Worker`: A queue and the one who empties it.
* `Refusal`: Why an event was not accepted.
* `Mailbox.post`: An event arrives.
* `Mailbox.pick`: The worker takes an event off the queue.
* `Mailbox.finish`: The worker is done with it.

## Theorems

* `queue_post`: What is accepted goes to the end of the queue.
* `post_eq_error_iff`: When an event is refused, and why.
-/

namespace Steward

/-- What the worker of a mailbox is doing. -/
inductive Worker where
  /-- It waits for an event. -/
  | idle
  /-- It handles an event. -/
  | busy (event : Event)
  /-- It has ended and takes no event any more. -/
  | ended
deriving DecidableEq, Repr

/-- The queue of a subscriber, with its worker. -/
structure Mailbox where
  /-- The name of the subscriber. -/
  name : String
  /-- How many events the queue has room for. -/
  capacity : Nat
  /-- The events that wait, the next one first. -/
  queue : List Event := []
  worker : Worker := .idle
deriving DecidableEq, Repr

/-- Why an event was not accepted. -/
inductive Refusal where
  /-- There is no room in the queue. -/
  | full
  /-- The worker has ended. -/
  | closed
deriving DecidableEq, Repr

/-- How a refusal is reported. -/
def Refusal.reason : Refusal → String
  | .full => "full"
  | .closed => "closed"

/-- How the handling of an event ends. -/
inductive Handling where
  /-- The subscriber has handled it. -/
  | handled
  /-- The subscriber broke off. -/
  | panicked (panic : Panic)
  /-- The worker itself came to its end. -/
  | died
deriving DecidableEq, Repr

namespace Mailbox

/-- The mailbox of a subscriber, with room for at least one event. -/
def new (name : String) (capacity : Nat) : Mailbox :=
  { name, capacity := max capacity 1 }

/-- The largest capacity that can be had. -/
def capacityLimit : Nat := Nat.pow 2 61 - 1

/-- What is said of a larger one. -/
def capacityRefusal : String :=
  "a semaphore may not have more than MAX_PERMITS permits (" ++ toString capacityLimit ++ ")"

/-- An event arrives. -/
def post (m : Mailbox) (e : Event) : Except Refusal Mailbox :=
  if m.worker = .ended then .error .closed
  else if m.capacity ≤ m.queue.length then .error .full
  else .ok { m with queue := m.queue ++ [e] }

/-- The worker takes the next event off the queue, if it waits for one. -/
def pick (m : Mailbox) : Option (Event × Mailbox) :=
  match m.worker, m.queue with
  | .idle, e :: rest => some (e, { m with queue := rest, worker := .busy e })
  | _, _ => none

/-- The worker is done with the event it was busy with. A subscriber that broke
    off is reported, and its worker goes on. -/
def finish (m : Mailbox) (how : Handling) : Mailbox × Option Notice :=
  match how with
  | .handled => ({ m with worker := .idle }, none)
  | .panicked p => ({ m with worker := .idle }, some (.panicked m.name p.message))
  | .died => ({ m with worker := .ended, queue := [] }, none)

/-- Nothing more is to come: a worker that waits in vain ends. -/
def close (m : Mailbox) : Mailbox :=
  match m.worker, m.queue with
  | .idle, [] => { m with worker := .ended }
  | _, _ => m

/-- Whether the worker has ended. -/
def hasEnded (m : Mailbox) : Bool :=
  m.worker = .ended

/-- What is accepted goes to the end of the queue. -/
theorem queue_post {m m' : Mailbox} {e : Event} (h : m.post e = .ok m') :
    m'.queue = m.queue ++ [e] := by
  unfold post at h
  split at h
  · cases h
  · split at h
    · cases h
    · cases h
      rfl

/-- An event is refused exactly when the worker has ended or there is no room,
    and the first is reported before the second. -/
theorem post_eq_error_iff {m : Mailbox} {e : Event} {r : Refusal} :
    m.post e = .error r ↔
      (m.worker = .ended ∧ r = .closed) ∨
        (m.worker ≠ .ended ∧ m.capacity ≤ m.queue.length ∧ r = .full) := by
  unfold post
  by_cases hw : m.worker = .ended <;> by_cases hc : m.capacity ≤ m.queue.length <;>
    simp [hw, hc, eq_comm]

end Mailbox

end Steward
