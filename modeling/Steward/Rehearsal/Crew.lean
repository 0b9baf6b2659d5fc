import Steward.Rehearsal.Listener
import Steward.Rehearsal.Stage
import Steward.Relay

/-!
# The Crew

The relay and the workers of the subscribers, taking turns on a stage.

A turn lasts until the actor has to wait. The relay takes everything that is on
the ring, also what its own turn adds to it. A worker takes one event after the
other until its queue is empty, or its subscriber waits for a gate, or it comes
to its end. But neither takes more in one turn than it is allowed to: then it
gives way, and nothing it is given meanwhile rouses it before the next break.

Whoever is given something to do is roused: the relay when something is
published, a worker when its mailbox takes an event while it waits for one, and
all workers that wait when nothing more will come.

## Main definitions

* `Crew`: The relay, the subscribers and the stage.
* `Crew.publish`: Something is published.
* `Crew.relayTurn`, `Crew.workerTurn`: Turns.
* `Crew.resume`: Those who gave way come back.
* `Crew.shutdown`: Nothing more will come.
-/

namespace Steward.Rehearsal

/-- The relay with the subscribers, on a stage. -/
structure Crew where
  relay : Relay
  listeners : List Listener := []
  stage : Stage := {}
  /-- The lines of the log since it was last looked at. -/
  log : List LogLine := []

namespace Crew

/-- The crew at the beginning: all workers stand in line, and behind them the
    relay. -/
def assemble (relay : Relay) (listeners : List Listener) : Crew :=
  let workers := (List.range listeners.length).map Actor.worker
  let line := workers ++ if relay.present then [.relay] else []
  { relay, listeners, stage := { line } }

/-- An actor is roused. -/
def rouse (c : Crew) (a : Actor) : Crew :=
  { c with stage := c.stage.rouse a }

/-- The crew with other subscribers' mailboxes or another ring. -/
def setDelivery (c : Crew) (delivery : Delivery) : Crew :=
  { c with relay := { c.relay with delivery } }

/-- The relay is roused if it listens. -/
def rouseRelay (c : Crew) : Crew :=
  if c.relay.listening then c.rouse .relay else c

/-- Something is published. -/
def publish (c : Crew) (n : Notice) : Crew :=
  { c with relay := c.relay.publish n }.rouseRelay

/-- The workers that wait for an event. -/
def idleWorkers (c : Crew) : List Actor :=
  (c.relay.delivery.fanout.boxes.zipIdx.filter fun (m, _) => m.worker = .idle).map
    fun (_, place) => .worker place

/-- The workers that wait for an event and have one. -/
def calledWorkers (c : Crew) : List Actor :=
  (c.relay.delivery.fanout.boxes.zipIdx.filter fun (m, _) =>
    m.worker = .idle && !m.queue.isEmpty).map fun (_, place) => .worker place

/-- Those workers are roused that have been given something to do. -/
def rouseCalled (c : Crew) : Crew :=
  { c with stage := c.stage.rouseAll c.calledWorkers }

/-- An event is handed to all subscribers directly. -/
def emit (c : Crew) (e : Event) : Crew :=
  (c.setDelivery (c.relay.delivery.emit e)).rouseCalled

/-- Nothing more will come: the workers that wait are roused to see it. -/
def shutdown (c : Crew) : Crew :=
  let c := c.setDelivery { c.relay.delivery with fanout := c.relay.delivery.fanout.shutdown }
  { c with stage := c.stage.rouseAll c.idleWorkers }

/-- An actor gives way to the others until the next break. -/
def giveWay (c : Crew) (a : Actor) : Crew :=
  { c with stage := c.stage.defer (.actor a) }

/-- The relay takes what is on the ring. It gives way when it has taken as many
    entries as it is allowed to. -/
def relayLoop (c : Crew) : Nat → Crew
  | 0 => c.giveWay .relay
  | allowance + 1 =>
    match c.relay.take with
    | some (_, relay) => relayLoop { c with relay }.rouseCalled allowance
    | none => c

/-- The turn of the relay. When the service is gone it stops listening. -/
def relayTurn (c : Crew) : Crew :=
  match c.relay.retire with
  | some _ => c.shutdown
  | none => c.relayLoop turnAllowance

/-- A worker is done with an event, and what it has to report is published. -/
def finish (c : Crew) (place : Nat) (how : Handling) : Crew :=
  match c.relay.delivery.finish place how with
  | some (_, delivery) => (c.setDelivery delivery).rouseRelay
  | none => c

/-- A subscriber handles the event its worker is busy with. -/
def conclude (c : Crew) (place : Nat) (l : Listener) (e : Event) : Crew :=
  let (how, l, lines) := l.take e
  { c with listeners := c.listeners.set place l, log := c.log ++ lines }.finish place how

/-- A worker deals with the event it is busy with, if there is one. With the crew
    comes whether it can go on to the next. -/
def attend (c : Crew) (place : Nat) : Crew × Bool :=
  match c.relay.delivery.fanout.boxes[place]?, c.listeners[place]? with
  | some m, some l =>
    match m.worker with
    | .ended => (c, false)
    | .idle => (c, true)
    | .busy e =>
      if l.dies e then (c.finish place .died, false)
      else
        match c.stage.proceed (.worker place) (l.hold?.map .gate).toList with
        | ([], _) => (c.conclude place l e, true)
        | (_, stage) => ({ c with stage }, false)
  | _, _ => (c, false)

/-- A worker takes one event after the other off its queue. It gives way when it
    has taken as many as it is allowed to, also if there is none left. -/
def workerLoop (c : Crew) (place : Nat) : Nat → Crew
  | 0 => c.giveWay (.worker place)
  | allowance + 1 =>
    match c.relay.delivery.pick place with
    | some (_, delivery) =>
      match (c.setDelivery delivery).attend place with
      | (c, true) => workerLoop c place allowance
      | (c, false) => c
    | none =>
      match c.relay.delivery.close place with
      | some delivery => c.setDelivery delivery
      | none => c

/-- The turn of a worker. -/
def workerTurn (c : Crew) (place : Nat) : Crew :=
  match c.attend place with
  | (c, true) => c.workerLoop place turnAllowance
  | (c, false) => c

/-- The turns are counted anew. -/
def recount (c : Crew) : Crew :=
  { c with stage := c.stage.recount }

/-- Those of the crew who gave way come back. -/
def resume (c : Crew) : Crew :=
  let (back, stage) := c.stage.resume
  { c with
    stage := stage.rouseAll (back.filterMap fun
      | .actor a => some a
      | .aside _ => none) }

/-- The turn of an actor, if it is one of the crew. -/
def turn (c : Crew) : Actor → Crew
  | .relay => c.relayTurn
  | .worker place => c.workerTurn place
  | _ => c

/-- What the recorders have recorded since they were last looked at. -/
def records (c : Crew) : List Recorder :=
  c.listeners.filterMap fun
    | .recorder r => if r.seen.isEmpty then none else some r
    | .logWriter => none

/-- The recorders and the log have been looked at. -/
def looked (c : Crew) : Crew :=
  { c with
    log := []
    listeners := c.listeners.map fun
      | .recorder r => .recorder { r with seen := [] }
      | .logWriter => .logWriter }

end Crew

/-- What shows of a rehearsal from one look to the next. -/
structure Sighting where
  /-- What a receiver got that was there from the beginning. -/
  events : List (Received Event) := []
  /-- The gates that are waited for, each with the number of those who wait. -/
  gates : List (String × Nat) := []
  log : List LogLine := []
  /-- The recorders that have recorded something. -/
  records : List Recorder := []

/-- What there is to see of a crew. -/
def Crew.sighting (c : Crew) : Sighting :=
  { gates := c.stage.gates, log := c.log, records := c.records }

end Steward.Rehearsal
