import Steward.Delivery
import Steward.Rehearsal.Receivers

/-!
# An Exchange

A ring of events with named receivers, and nothing else.

## Main definitions

* `Exchange`: The ring and its receivers.
* `Exchange.step`: Somebody publishes or receives.
-/

namespace Steward.Rehearsal

/-- A ring of events with named receivers. -/
structure Exchange where
  delivery : Delivery
  receivers : Receivers := {}
  /-- Whether nothing will be published any more. -/
  closed : Bool := false

/-- What can be done at an exchange. -/
inductive ExchangeStep where
  /-- The same thing happens a number of times and is published. -/
  | publish (notice : Notice) (times : Nat)
  | subscribe (receiver : String)
  | unsubscribe (receiver : String)
  /-- Those who publish go. -/
  | close
  /-- A receiver takes what there is, up to a number of entries. -/
  | receive (receiver : String) (limit : Option Nat)
deriving DecidableEq, Repr

namespace Exchange

/-- An exchange of a capacity. One that cannot be had is refused. -/
def ofCapacity (capacity : Nat) : Except String Exchange :=
  (Broadcast.make capacity).map fun ring => { delivery := { ring } }

/-- A step, with what a receiver got if one took something. -/
def step (x : Exchange) : ExchangeStep → Option (List (Received Event)) × Exchange
  | .publish n times =>
    (none, { x with delivery := x.delivery.publishAll (List.replicate times n) })
  | .subscribe name =>
    (none, { x with receivers := x.receivers.join name x.delivery.ring.total })
  | .unsubscribe name => (none, { x with receivers := x.receivers.leave name })
  | .close => (none, { x with closed := true })
  | .receive name limit =>
    let (got, receivers) := x.receivers.receive x.delivery.ring x.closed name limit
    (some got, { x with receivers })

/-- A row of steps, with what each gave. -/
def play (x : Exchange) : List ExchangeStep → List (Option (List (Received Event)))
  | [] => []
  | a :: rest =>
    let (got, x) := x.step a
    got :: x.play rest

end Exchange

end Steward.Rehearsal
