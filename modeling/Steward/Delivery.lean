import Steward.Broadcast
import Steward.Fanout

/-!
# Delivery

The subscribers of a service together with the ring that tells what becomes of
them.

Every event gets the next number when it comes about, whether it is published or
not. What goes wrong with a subscriber comes about as an event too: the refusals
of one event are numbered and published right where that event is handed out, in
the order of the subscribers, and a subscriber that breaks off is reported when
its worker is done with the event.

`Delivery.act` takes one step: an event is published or handed to all
subscribers, or one worker does something. It says what was published, accepted,
refused and handled, and it is not possible where the step is not the next one
of its worker. So a statement about all sequences of steps is one about every
way in which those who emit and the workers can overlap.

## Main definitions

* `Delivery`: A ring, the next number, and the mailboxes.
* `Delivery.publish`, `Delivery.emit`: An event for the ring, or for all
  mailboxes.
* `Delivery.act`, `Delivery.run`: One step, and a sequence of them.

## Theorems

* `nextSeq_publishAll`: Every notice that is published takes one number.
* `total_publishAll`: All that is published goes into the ring.
-/

namespace Steward

/-- The mailboxes of all subscribers, and the ring in which the events are
    published. -/
structure Delivery where
  ring : Broadcast Event
  /-- The number of the next event. -/
  nextSeq : Nat := 0
  fanout : Fanout := {}

/-- What can happen to the subscribers of a service. -/
inductive DeliveryAction where
  /-- Something happened that is published. -/
  | publish (notice : Notice)
  /-- An event is handed to all subscribers. -/
  | emit (event : Event)
  /-- A worker takes the next event off its queue. -/
  | pick (place : Nat)
  /-- A worker is done with an event. -/
  | finish (place : Nat) (how : Handling)
  /-- No further event will be handed out. -/
  | shutdown
  /-- A worker sees that nothing more will come, and ends. -/
  | close (place : Nat)
deriving DecidableEq, Repr

/-- What such a step shows. -/
inductive DeliveryEffect where
  /-- An event was published. -/
  | published (event : Event)
  /-- A mailbox took an event. -/
  | accepted (place : Nat) (event : Event)
  /-- A mailbox refused an event. -/
  | refused (place : Nat) (event : Event) (why : Refusal)
  /-- A subscriber begins to handle an event. -/
  | picked (place : Nat) (event : Event)
  /-- It is done with it. -/
  | handled (place : Nat) (event : Event) (how : Handling)
  /-- A worker ended because nothing more will come. -/
  | ended (place : Nat)
deriving DecidableEq, Repr

namespace Delivery

/-- A notice becomes an event, which is not published. -/
def stamp (d : Delivery) (n : Notice) : Event × Delivery :=
  (n.stamp d.nextSeq, { d with nextSeq := d.nextSeq + 1 })

/-- A notice becomes an event and is published. -/
def publish (d : Delivery) (n : Notice) : Delivery :=
  { d with ring := d.ring.publish (n.stamp d.nextSeq), nextSeq := d.nextSeq + 1 }

/-- Several notices are published, one after the other. -/
def publishAll (d : Delivery) (notices : List Notice) : Delivery :=
  notices.foldl publish d

/-- The events that notices become if they come about now. -/
def stamped (d : Delivery) (notices : List Notice) : List Event :=
  Notice.stampAll notices d.nextSeq

/-- An event is handed to all subscribers, and its refusals are published. -/
def emit (d : Delivery) (e : Event) : Delivery :=
  let (fanout, notices) := d.fanout.emit e
  { d with fanout }.publishAll notices

/-- What becomes of an event at each mailbox. -/
def offers (d : Delivery) (e : Event) : List DeliveryEffect :=
  d.fanout.boxes.zipIdx.map fun (m, place) =>
    match m.post e with
    | .ok _ => .accepted place e
    | .error why => .refused place e why

/-- The delivery with another mailbox in a place. -/
def setBox (d : Delivery) (place : Nat) (m : Mailbox) : Delivery :=
  { d with fanout := d.fanout.update place m }

/-- A worker takes the next event off its queue. -/
def pick (d : Delivery) (place : Nat) : Option (Event × Delivery) := do
  let m ← d.fanout.boxes[place]?
  let (e, m) ← m.pick
  return (e, d.setBox place m)

/-- A worker is done with the event it was busy with. What has to be reported is
    published. -/
def finish (d : Delivery) (place : Nat) (how : Handling) : Option (Event × Delivery) :=
  match d.fanout.boxes[place]? with
  | some m =>
    match m.worker with
    | .busy e => some (e, (d.setBox place (m.finish how).1).publishAll (m.finish how).2.toList)
    | _ => none
  | none => none

/-- A worker that waits in vain ends, once nothing more will come. -/
def close (d : Delivery) (place : Nat) : Option Delivery :=
  match d.fanout.boxes[place]? with
  | some m =>
    if d.fanout.closing && m.worker = .idle && m.queue.isEmpty then
      some (d.setBox place m.close)
    else none
  | none => none

/-- One step, and what it shows. It is not possible if it is not the next step of
    its worker, or if an event is handed out after the end. -/
def act (d : Delivery) : DeliveryAction → Option (Delivery × List DeliveryEffect)
  | .publish n => some (d.publish n, [.published (n.stamp d.nextSeq)])
  | .emit e =>
    if d.fanout.closing then none
    else some (d.emit e, d.offers e ++ (d.stamped (d.fanout.emit e).2).map .published)
  | .pick place => (d.pick place).map fun (e, d) => (d, [.picked place e])
  | .finish place how =>
    (d.finish place how).map fun (e, after) =>
      let reports := match d.fanout.boxes[place]? with
        | some m => d.stamped (m.finish how).2.toList
        | none => []
      (after, .handled place e how :: reports.map .published)
  | .shutdown =>
    if d.fanout.closing then none else some ({ d with fanout := d.fanout.shutdown }, [])
  | .close place => (d.close place).map fun d => (d, [.ended place])

/-- A sequence of steps, with everything that they show. -/
def run (d : Delivery) : List DeliveryAction → Option (Delivery × List DeliveryEffect)
  | [] => some (d, [])
  | a :: rest =>
    (d.act a).bind fun now => (now.1.run rest).map fun later => (later.1, now.2 ++ later.2)

/-- Nothing is published for no notices. -/
@[simp] theorem publishAll_nil (d : Delivery) : d.publishAll [] = d := rfl

/-- Notices are published in their order. -/
@[simp] theorem publishAll_cons (d : Delivery) (n : Notice) (rest : List Notice) :
    d.publishAll (n :: rest) = (d.publish n).publishAll rest := rfl

/-- Every notice that is published takes one number. -/
@[simp] theorem nextSeq_publishAll (d : Delivery) (notices : List Notice) :
    (d.publishAll notices).nextSeq = d.nextSeq + notices.length := by
  induction notices generalizing d with
  | nil => rfl
  | cons n rest ih =>
    rw [publishAll_cons, ih, List.length_cons]
    simp only [publish]
    omega

/-- All that is published goes into the ring. -/
@[simp] theorem total_publishAll (d : Delivery) (notices : List Notice) :
    (d.publishAll notices).ring.total = d.ring.total + notices.length := by
  induction notices generalizing d with
  | nil => rfl
  | cons n rest ih =>
    rw [publishAll_cons, ih, List.length_cons]
    simp only [publish, Broadcast.total_publish]
    omega

/-- Publishing is no concern of the mailboxes. -/
@[simp] theorem fanout_publishAll (d : Delivery) (notices : List Notice) :
    (d.publishAll notices).fanout = d.fanout := by
  induction notices generalizing d with
  | nil => rfl
  | cons n rest ih => rw [publishAll_cons, ih]; rfl

end Delivery

end Steward
