import Steward.Rehearsal.Crew
import Steward.Rehearsal.Receivers

/-!
# An Audience

Subscribers without a service.

Events are handed to the subscribers directly, so there is no relay between. The
workers do not run while events are handed out, only when they are given the
time. What they report goes to a receiver that was there from the beginning.

## Main definitions

* `Audience`: Subscribers and the one who receives their reports.
* `Audience.step`: Something happens to them.
-/

namespace Steward.Rehearsal

/-- Subscribers without a service. -/
structure Audience where
  crew : Crew
  /-- The number of the event that the receiver of reports takes next, unless it
      has been told that nothing more will come. -/
  watch : Option Nat := some 0

/-- What can happen to an audience. -/
inductive AudienceStep where
  /-- These things happen, each a number of times in a row, and are handed to
      all. -/
  | emit (notices : List Notice) (times : Nat)
  /-- The workers are given time. -/
  | settle
  /-- A gate is opened, and the workers are given time. -/
  | openGate (gate : String)
  /-- Nothing more will come, and the workers are given time. -/
  | shutdown
deriving DecidableEq, Repr

/-- What there is to see of an audience after a step. -/
structure AudienceView where
  sighting : Sighting
  /-- The number of subscribers, until nothing more will come. -/
  size : Option Nat
  /-- Whether all workers have ended. -/
  ended : Bool

namespace Audience

/-- An audience whose reports go into a ring of a capacity. -/
def ofListeners (capacity : Nat) (listeners : List Listener) : Except String Audience := do
  let ring ← Broadcast.make capacity
  let fanout ← Fanout.make (listeners.map Listener.terms)
  return { crew := .assemble { delivery := { ring, fanout }, present := false } listeners }

/-- One thing happens and is handed to all. -/
def emit (a : Audience) (n : Notice) : Audience :=
  let (e, delivery) := a.crew.relay.delivery.stamp n
  { a with crew := (a.crew.setDelivery delivery).emit e }

/-- The workers take turns until none can go on, so many turns and breaks at
    most. -/
def settleWithin (a : Audience) : Nat → Audience
  | 0 => a
  | turns + 1 =>
    if a.crew.stage.needsBreak then settleWithin { a with crew := a.crew.resume } turns
    else match a.crew.stage.next? with
      | some (actor, stage) =>
        settleWithin { a with crew := { a.crew with stage }.turn actor } turns
      | none => a

/-- The workers take turns until none can go on. -/
def settle (a : Audience) : Audience :=
  { a with crew := a.crew.recount }.settleWithin Stage.patience

/-- A step. -/
def step (a : Audience) : AudienceStep → Audience
  | .emit notices times =>
    (notices.flatMap (List.replicate times)).foldl emit a
  | .settle => a.settle
  | .openGate gate =>
    settle { a with crew := { a.crew with stage := a.crew.stage.openGate gate } }
  | .shutdown => settle { a.settle with crew := a.settle.crew.shutdown }

/-- What there is to see, and the audience after it was looked at. -/
def look (a : Audience) : AudienceView × Audience :=
  let d := a.crew.relay.delivery
  let ended := d.fanout.hasEnded
  let (events, watch) := match a.watch with
    | some next => d.ring.takeToEnd ended none next
    | none => ([], none)
  ({ sighting := { a.crew.sighting with events }
     size := if d.fanout.closing then none else some d.fanout.boxes.length
     ended },
    { crew := a.crew.looked, watch })

/-- A row of steps, with what there was to see after each. -/
def play (a : Audience) : List AudienceStep → List AudienceView
  | [] => []
  | s :: rest =>
    let (view, a) := (a.step s).look
    view :: a.play rest

end Audience

end Steward.Rehearsal
