import Steward.Rehearsal.Play

/-!
# Scripts

What is done to a service on a stage, step by step, and what there is to see.

A scene is one step or several, between which nothing has time to happen. After
a scene all take turns until none can go on, and then one looks at what has
happened since the last look.

A call that takes its time gets a name: its kind, and the number of such calls
begun before it.

## Main definitions

* `Step`: What can be done.
* `Play.step`: It is done.
* `Play.look`: What there is to see.
* `Play.scenes`: A script from beginning to end.
-/

namespace Steward.Rehearsal

/-- What can be done to a service. -/
inductive Step where
  /-- A server is offered. -/
  | serve (player : Option Player)
  /-- A dependency is offered. -/
  | attach (player : Option Player)
  /-- A call is begun, perhaps in a context that is cancelled already. -/
  | begin (kind : CallKind) (cancelled : Bool)
  /-- A start where signals cannot be listened to, for a reason. -/
  | startUnheard (reason : String)
  /-- The context of a call is cancelled. -/
  | cancel (call : String)
  | openGate (gate : String)
  /-- These signals arrive, all at once. -/
  | signal (signals : List Signal)
  /-- The players with a script that have this name cannot tell it any more, or
      can again. -/
  | silence (name : String) (on : Bool)
  | subscribe (receiver : String)
  /-- A receiver takes what there is, up to a number of entries. -/
  | receive (receiver : String) (limit : Option Nat)
  /-- The settings are looked at. -/
  | settings
  /-- Those outside let go of the service. -/
  | drop
  /-- Nothing is done. -/
  | rest

/-- What a step gives. -/
inductive Reply where
  | done
  /-- A call has ended. -/
  | ended (outcome : Outcome)
  /-- A call has begun, and this is its name. -/
  | begun (call : String)
  | received (entries : List (Received Event))
  | settings (settings : Settings)

/-- What there is to see of the roster. A name that cannot be told is seen as the
    panic it causes. -/
structure RosterView where
  initialized : Bool
  stopped : Bool
  server : Option (Attempt String)
  dependencies : List (Attempt String)

/-- What there is to see after a scene. -/
structure PlayView where
  sighting : Sighting
  journal : Journal
  /-- The calls that have ended, by their names. -/
  done : List (String × Outcome)
  /-- The roster, unless those outside have let go of the service. -/
  roster : Option RosterView
  /-- The servers and the dependencies among the stand-ins whose counts are kept. -/
  countedServers : List StandIn
  countedDependencies : List StandIn

/-- The word for a kind of call in the name of one. -/
def callWord : CallKind → String
  | .start => "start"
  | .stop => "stop"
  | .status => "status"

namespace Play

/-- A player joins the others and gets the next number. -/
def enrol (p : Play) (player : Option Player) : Option Nat × Play :=
  (player.map fun _ => p.players.length, { p with players := p.players ++ player.toList })

/-- What became of a call. -/
def outcome (p : Play) (call : Nat) : Outcome :=
  match p.system.calls[call]? with
  | some (.ended outcome) => outcome
  | _ => .done

/-- A call that waits for nothing is made and has ended. -/
def callNow (p : Play) (steps : Nat → List (Action Nat)) : Reply × Play :=
  let call := p.system.calls.length
  let p := (steps call).foldl (fun p step => p.take (.call call) step) p
  (.ended (p.outcome call), p)

/-- A player with a script gets or loses its voice. -/
def silenced (name : String) (on : Bool) : Player → Player
  | .part q => .part (if q.name = name then { q with nameless := on } else q)
  | other => other

/-- Something is done, and gives a reply. -/
def step (p : Play) : Step → Reply × Play
  | .serve player =>
    let (who, p) := p.enrol player
    p.callNow fun call => [.serve (fun _ => p.ask) who, .announceRegistered call]
  | .attach player =>
    let (who, p) := p.enrol player
    p.callNow fun call => [.attach (fun _ => p.ask) who, .announceRegistered call]
  | .startUnheard reason =>
    p.callNow fun call => [.begin .start, .enterStart call (.error reason)]
  | .begin kind cancelled =>
    let call := p.system.calls.length
    let name := callWord kind ++ toString p.begun.length
    let p := { p with begun := p.begun ++ [(name, call)] }.take (.call call) (.begin kind)
    let p := p.rouse (.call call)
    (.begun name,
      if cancelled then { p with crew := { p.crew with stage := p.crew.stage.cancel call } }
      else p)
  | .cancel name =>
    match p.begun.lookup name with
    | some call =>
      (.done, { p with crew := { p.crew with stage := p.crew.stage.cancel call } })
    | none => (.done, p)
  | .openGate gate =>
    (.done, { p with crew := { p.crew with stage := p.crew.stage.openGate gate } })
  | .signal signals => (.done, { p with signals := p.signals ++ signals })
  | .silence name on => (.done, { p with players := p.players.map (silenced name on) })
  | .subscribe name =>
    let next := p.crew.relay.delivery.ring.total
    (.done, { p with receivers := p.receivers.join name next })
  | .receive name limit =>
    let (got, receivers) := p.receivers.receive p.crew.relay.delivery.ring
      p.crew.relay.hasEnded name limit
    (.received got, { p with receivers })
  | .settings => (.settings p.system.settings, p)
  | .drop => (.done, { p with dropped := true }.letGo)
  | .rest => (.done, p)

/-- Several things are done with nothing happening between them. -/
def steps (p : Play) : List Step → List Reply × Play
  | [] => ([], p)
  | s :: rest =>
    let (reply, p) := p.step s
    let (replies, p) := p.steps rest
    (reply :: replies, p)

/-- What there is to see of the roster. -/
def rosterView (p : Play) : RosterView :=
  let r := p.system.roster
  { initialized := r.initialized
    stopped := r.stopped
    server := r.server.map p.ask
    dependencies := r.dependencies.map p.ask }

/-- The stand-ins in a role whose counts are kept. -/
def counted (p : Play) (role : Role) : List StandIn :=
  p.players.filterMap fun
    | .standIn r true s => if r = role then some s else none
    | _ => none

/-- What there is to see, and the play after it was looked at. -/
def look (p : Play) : PlayView × Play :=
  let (events, watch) := match p.watch with
    | some next => p.crew.relay.delivery.ring.takeToEnd p.crew.relay.hasEnded none next
    | none => ([], none)
  ({ sighting := { p.crew.sighting with events }
     journal := p.journal
     done := p.done
     roster := if p.dropped then none else some p.rosterView
     countedServers := p.counted .server
     countedDependencies := p.counted .dependency },
    { p with crew := p.crew.looked, journal := {}, done := [], watch })

/-- A script from beginning to end: for each scene what its steps gave and what
    there was to see after it. -/
def scenes (p : Play) : List (List Step) → List (List Reply × PlayView)
  | [] => []
  | scene :: rest =>
    let (replies, p) := p.steps scene
    let (view, p) := p.settle.look
    (replies, view) :: p.scenes rest

end Play

end Steward.Rehearsal
