import Steward.Delivery

/-!
# The Relay

What connects the ring of a service with its subscribers.

The relay is a receiver of the ring like any other. It takes one event after the
other and hands each to all subscribers; if it has fallen behind it passes over
what was lost. What the subscribers make of an event may be published into the
very ring the relay listens to, so the relay gets to see that too.

When the service is gone the relay may stop listening at any moment, also with
events unread. From then on nothing more is handed out, and the workers end once
their queues are empty. What they still have to report is published all the same.

## Main definitions

* `Relay`: The ring, the subscribers, and how far the relay has come.
* `Relay.publish`: The service publishes.
* `Relay.take`: The relay takes what comes next.
* `Relay.act`, `Relay.run`: Steps and sequences of them.
-/

namespace Steward

/-- A service's ring and subscribers, with the relay between them. -/
structure Relay where
  delivery : Delivery
  /-- The number of the event in the ring that the relay takes next. -/
  next : Nat := 0
  /-- Whether there are subscribers, and so a relay at all. -/
  present : Bool := true
  /-- Whether the service is gone. -/
  released : Bool := false

/-- What can happen to a relay and its subscribers. -/
inductive RelayAction where
  /-- The service publishes. -/
  | publish (notice : Notice)
  /-- The relay takes what comes next. -/
  | take
  /-- A worker takes the next event off its queue. -/
  | pick (place : Nat)
  /-- A worker is done with an event. -/
  | finish (place : Nat) (how : Handling)
  /-- The service goes. -/
  | release
  /-- The relay sees that the service is gone and stops listening. -/
  | retire
  /-- A worker sees that nothing more will come, and ends. -/
  | close (place : Nat)
deriving DecidableEq, Repr

/-- What such a step shows. -/
inductive RelayEffect where
  /-- The relay hands an event to all subscribers. -/
  | emitted (event : Event)
  /-- The relay is told that so many events were lost to it. -/
  | lost (count : Nat)
  /-- Something shows of the ring or the subscribers. -/
  | shown (effect : DeliveryEffect)
deriving DecidableEq, Repr

namespace Relay

/-- The relay of a service that begins, with an empty ring. Without subscribers
    there is none. A capacity that cannot be had is refused, first that of the
    ring and then those of the mailboxes. -/
def ofSubscribers (capacity : Nat) (subscribers : List (String × Nat)) :
    Except String Relay := do
  let ring ← Broadcast.make capacity
  let fanout ← Fanout.make subscribers
  return { delivery := { ring, fanout }, present := !subscribers.isEmpty }

/-- Whether the relay listens to the ring. -/
def listening (r : Relay) : Bool :=
  r.present && !r.delivery.fanout.closing

/-- The service publishes. -/
def publish (r : Relay) (n : Notice) : Relay :=
  { r with delivery := r.delivery.publish n }

/-- The relay takes what comes next, if it listens and something has come. -/
def take (r : Relay) : Option (Received Event × Relay) :=
  if r.listening then
    match r.delivery.ring.receive r.next with
    | (some (.item e), next) => some (.item e, { r with delivery := r.delivery.emit e, next })
    | (some other, next) => some (other, { r with next })
    | (none, _) => none
  else none

/-- The service goes. -/
def release (r : Relay) : Relay :=
  { r with released := true }

/-- The relay sees that the service is gone and stops listening. -/
def retire (r : Relay) : Option Relay :=
  if r.listening && r.released then
    some { r with delivery := { r.delivery with fanout := r.delivery.fanout.shutdown } }
  else none

/-- Whether nothing will be published any more: the service, the relay and all
    workers are gone. -/
def hasEnded (r : Relay) : Bool :=
  r.released && (!r.present || r.delivery.fanout.hasEnded)

/-- A step of the subscribers. -/
def work (r : Relay) (a : DeliveryAction) : Option (Relay × List RelayEffect) :=
  (r.delivery.act a).map fun (delivery, effects) => ({ r with delivery }, effects.map .shown)

/-- One step, and what it shows. The service does not publish any more when it is
    gone. -/
def act (r : Relay) : RelayAction → Option (Relay × List RelayEffect)
  | .publish n => if r.released then none else r.work (.publish n)
  | .take =>
    r.take.bind fun (got, after) =>
      match got with
      | .item e =>
        (r.delivery.act (.emit e)).map fun (_, effects) =>
          (after, .emitted e :: effects.map .shown)
      | .lagged n => some (after, [.lost n])
      | .closed => some (after, [])
  | .pick place => r.work (.pick place)
  | .finish place how => r.work (.finish place how)
  | .release => if r.released then none else some (r.release, [])
  | .retire => r.retire.map fun r => (r, [])
  | .close place => r.work (.close place)

/-- A sequence of steps, with everything that they show. -/
def run (r : Relay) : List RelayAction → Option (Relay × List RelayEffect)
  | [] => some (r, [])
  | a :: rest =>
    (r.act a).bind fun now => (now.1.run rest).map fun later => (later.1, now.2 ++ later.2)

end Relay

end Steward
