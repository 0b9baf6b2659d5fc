import Steward.Mailbox

/-!
# Handing Events to All Subscribers

One event, given to every mailbox in turn.

An event is offered to the mailboxes in the order of the subscribers and never
waits for any of them. A mailbox that refuses it misses this event and no other,
and the refusal is told as an event of its own, unless the event refused was
itself the news of a refusal. So a subscriber that is stuck cannot make the
others miss anything, and its refusals do not breed further ones without end.

Once the set is closing no event comes in any more. The workers empty their
queues, and the set has ended when all of them have.

## Main definitions

* `Fanout`: The mailboxes of all subscribers.
* `Fanout.emit`: An event is given to all.
* `Fanout.update`: A step of one mailbox.
* `Fanout.shutdown`: The set starts to close.

## Theorems

* `offer_fst`: A mailbox that refuses an event is left as it was.
* `boxes_emit`: Every mailbox is served on its own.
-/

namespace Steward

/-- The mailboxes of all subscribers, in their order. -/
structure Fanout where
  boxes : List Mailbox := []
  /-- Whether the set has started to close. -/
  closing : Bool := false
deriving DecidableEq, Repr

namespace Fanout

/-- The set of these subscribers, given by name and capacity. -/
def ofSubscribers (subscribers : List (String × Nat)) : Fanout :=
  { boxes := subscribers.map fun (name, capacity) => Mailbox.new name capacity }

/-- The same set, or the panic of a capacity that cannot be had. -/
def make (subscribers : List (String × Nat)) : Except String Fanout :=
  let f := ofSubscribers subscribers
  if f.boxes.any fun m => Mailbox.capacityLimit < m.capacity then .error Mailbox.capacityRefusal
  else .ok f

/-- An event is offered to one mailbox. A refusal is reported, except that of an
    event that reports one. -/
def offer (e : Event) (m : Mailbox) : Mailbox × List Notice :=
  match m.post e with
  | .ok m' => (m', [])
  | .error r =>
    (m, if e.kind = .subscriberOverflow then [] else [.overflow m.name r.reason])

/-- An event is given to every mailbox. The refusals are reported in the order
    of the subscribers. -/
def emit (f : Fanout) (e : Event) : Fanout × List Notice :=
  ({ f with boxes := f.boxes.map fun m => (offer e m).1 },
    f.boxes.flatMap fun m => (offer e m).2)

/-- A step of the mailbox in a place. -/
def update (f : Fanout) (place : Nat) (m : Mailbox) : Fanout :=
  { f with boxes := f.boxes.set place m }

/-- No event will come in any more. -/
def shutdown (f : Fanout) : Fanout :=
  { f with closing := true }

/-- Whether the set has closed: it was told to, and every worker has ended. -/
def hasEnded (f : Fanout) : Bool :=
  f.closing && f.boxes.all (·.hasEnded)

/-- A mailbox that refuses an event is left as it was. -/
theorem offer_fst (e : Event) (m : Mailbox) : (offer e m).1 = (m.post e).toOption.getD m := by
  unfold offer
  split <;> simp [*, Except.toOption]

/-- Every mailbox is served on its own. -/
@[simp] theorem boxes_emit (f : Fanout) (e : Event) :
    (f.emit e).1.boxes = f.boxes.map fun m => (offer e m).1 := rfl

end Fanout

end Steward
