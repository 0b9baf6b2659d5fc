import Steward.Lifecycle
import Steward.Relay

/-!
# A Service with Its Subscribers

The whole of a service: its calls, and what is told of them.

The calls publish into the ring of the relay, and that is all they have to do
with subscribers: no step of a call looks at the relay, so no subscriber can
hold up a call. The other way round the subscribers see nothing of the calls but
the events.

## Main definitions

* `Service`: The calls and the relay.
* `Service.build`: A service that begins.
* `Service.act`, `Service.run`: A step of either, and sequences of them.
-/

namespace Steward

variable {ι : Type}

/-- A service, with all calls made to it and all its subscribers. -/
structure Service (ι : Type) where
  system : System ι
  relay : Relay

/-- What can happen to a service and its subscribers. -/
inductive ServiceAction (ι : Type) where
  /-- A call takes a step. -/
  | call (action : Action ι)
  /-- The relay or a subscriber takes a step. -/
  | relay (action : RelayAction)

/-- What such a step shows. -/
inductive ServiceEffect (ι : Type) where
  | call (effect : Effect ι)
  | relay (effect : RelayEffect)

/-- Whether an action is the making of a call. -/
def Action.isNewCall : Action ι → Bool
  | .serve _ _ | .attach _ _ | .begin _ => true
  | _ => false

/-- The notices among effects. -/
def publishedIn (effects : List (Effect ι)) : List Notice :=
  effects.filterMap fun
    | .published n => some n
    | _ => none

namespace Service

/-- A service that begins, with these subscribers. The settings need not have
    been validated, and a capacity that cannot be had is refused. -/
def build (settings : Settings) (subscribers : List (String × Nat)) : Except String (Service ι) :=
  (Relay.ofSubscribers settings.usedCapacity.toNat subscribers).map fun relay =>
    { system := .initial settings, relay }

/-- The service publishes what happened, in order. -/
def publishAll (s : Service ι) (notices : List Notice) : Service ι :=
  { s with relay := notices.foldl Relay.publish s.relay }

/-- Whether no call is on its way. -/
def isQuiet (s : Service ι) : Bool :=
  s.system.calls.all fun
    | .ended _ => true
    | _ => false

/-- One step, and what it shows. A service stays as long as a call is on its way,
    and when it is gone no new call can be made. What the relay hears of a
    service it hears through the calls. -/
def act (s : Service ι) : ServiceAction ι → Option (Service ι × List (ServiceEffect ι))
  | .call a =>
    if s.relay.released && a.isNewCall then none
    else (s.system.act a).map fun (system, effects) =>
      ({ s with system }.publishAll (publishedIn effects), effects.map .call)
  | .relay (.publish _) => none
  | .relay .release =>
    if s.isQuiet && !s.relay.released then some ({ s with relay := s.relay.release }, [])
    else none
  | .relay a => (s.relay.act a).map fun (relay, effects) =>
      ({ s with relay }, effects.map .relay)

/-- A sequence of steps, with everything that they show. -/
def run (s : Service ι) :
    List (ServiceAction ι) → Option (Service ι × List (ServiceEffect ι))
  | [] => some (s, [])
  | a :: rest =>
    (s.act a).bind fun now => (now.1.run rest).map fun later => (later.1, now.2 ++ later.2)

end Service

end Steward
