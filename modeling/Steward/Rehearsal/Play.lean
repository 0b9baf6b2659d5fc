import Steward.Lifecycle.Next
import Steward.Rehearsal.Crew
import Steward.Rehearsal.Player
import Steward.Rehearsal.Receivers
import Steward.Service

/-!
# A Play

A whole service on a stage, with players for participants.

A call, the server and every task that a call spawns are actors like the relay
and the workers. In its turn a call takes all the steps it can take; a task asks
its player for the name and then performs. A stop performs the stopping of the
server in its own turn. What a step shows is passed on at once: an event to the
ring, a line to the log, a word to those who can go on because of it.

Signals that arrive are heard in the next break, so a start that is admitted
before it hears them too. Signals that nobody listens for by then have no effect.

The service stays as long as somebody outside holds it or a call is on its way.
When it has gone the relay is roused to see it.

## Main definitions

* `Play`: A service on a stage.
* `Play.take`: A step of the service is taken and passed on.
* `Play.turn`: The turn of an actor.
* `Play.pause`: A break.
* `Play.settle`: All take turns until none can go on.
-/

namespace Steward.Rehearsal

/-- A service on a stage. -/
structure Play where
  system : System Nat
  crew : Crew
  /-- The participants by their numbers. -/
  players : List Player := []
  /-- What is being performed, and in whose turn. -/
  performances : List (Actor × Performance) := []
  /-- The start whose server is at work. -/
  launcher : Nat := 0
  /-- The calls that were begun, by their names. -/
  begun : List (String × Nat) := []
  /-- The calls among them that ended since they were last looked at. -/
  done : List (String × Outcome) := []
  /-- Whether those outside have let go of the service. -/
  dropped : Bool := false
  journal : Journal := {}
  receivers : Receivers := {}
  /-- The signals that have arrived since the last break. -/
  signals : List Signal := []
  /-- The number of the event that the receiver takes next that was there from the
      beginning, unless there is none or it was told of the end. -/
  watch : Option Nat := some 0

namespace Play

/-- A service that begins. -/
def begin (settings : Settings) (listeners : List Listener) (watched : Bool) :
    Except String Play :=
  (Service.build settings (listeners.map Listener.terms)).map fun s =>
    { system := s.system
      crew := .assemble s.relay listeners
      watch := if watched then some 0 else none }

/-- What a participant answers when it is asked for its name. -/
def ask (p : Play) (who : Nat) : Attempt String :=
  match p.players[who]? with
  | some player => player.answer
  | none => .error .mute

/-- An actor is roused. -/
def rouse (p : Play) (a : Actor) : Play :=
  { p with crew := p.crew.rouse a }

/-- The call in whose context an actor acts. -/
def contextOf (p : Play) : Actor → Nat
  | .call number => number
  | .part call _ => call
  | _ => p.launcher

/-- A player begins to perform, in the turn of an actor. -/
def enter (p : Play) (a : Actor) (m : Method) (who : Nat) : Play :=
  match p.players[who]? with
  | none => p
  | some player =>
    let call := p.contextOf a
    let earlier := (p.players.take who).countP Player.isPart
    let (player, performance, journal) :=
      player.enter who earlier m call (p.crew.stage.passed (.context call))
    { p with
      players := p.players.set who player
      performances := (a, performance) :: p.performances
      journal := p.journal.append journal }

/-- A performance goes on, if the actor has one. It ends if there is nothing more
    to wait for. -/
def perform (p : Play) (a : Actor) : Play × Option Exit :=
  match p.performances.lookup a with
  | none => (p, none)
  | some f =>
    let (waits, stage) := p.crew.stage.proceed a f.waits
    let p := { p with crew := { p.crew with stage } }
    let others := p.performances.filter fun (b, _) => b != a
    match waits, p.players[f.who]? with
    | [], some player =>
      let (player, exit) := player.leave f
      ({ p with
          players := p.players.set f.who player
          performances := others
          journal := p.journal.append exit.journal }, some exit)
    | _, _ => ({ p with performances := (a, { f with waits }) :: others }, none)

/-- What a step shows is passed on. -/
def heed (a : Actor) (p : Play) : Effect Nat → Play
  | .published n => { p with crew := p.crew.publish n }
  | .invoked m who => p.enter a m who
  | .returned _ _ => p
  | .logged line => { p with crew := { p.crew with log := p.crew.log ++ [line] } }
  | .spawned .server => { p with launcher := p.contextOf a }.rouse .server
  | .spawned (.part call place) => p.rouse (.part call place)
  | .woken call => p.rouse (.call call)
  | .gaveWay call =>
    { p with crew := { p.crew with stage := p.crew.stage.defer (.aside call) } }.rouse (.call call)
  | .finished call outcome =>
    match p.begun.find? fun (_, number) => number = call with
    | some (name, _) => { p with done := p.done ++ [(name, outcome)] }
    | none => p

/-- A step of the service is taken in the turn of an actor, if it can be. -/
def take (p : Play) (a : Actor) (step : Action Nat) : Play :=
  match p.system.act step with
  | some (system, effects) => effects.foldl (heed a) { p with system }
  | none => p

/-- A call goes on until it has to wait. -/
def onward (p : Play) (call : Nat) : Play :=
  let (system, effects) := p.system.advance call p.ask turnAllowance System.advanceLimit
  effects.foldl (heed (.call call)) { p with system }

/-- The turn of a call. What is performed in it is the stopping of the server, and
    when that has ended the call goes on. -/
def callTurn (p : Play) (call : Nat) : Play :=
  match (p.onward call).perform (.call call) with
  | (p, some exit) => (p.take (.call call) (.endDraining call exit.result)).onward call
  | (p, none) => p

/-- The turn of the server. -/
def serverTurn (p : Play) : Play :=
  match (p.take .server .runServer).perform .server with
  | (p, some exit) => p.take .server (.endServer exit.result)
  | (p, none) => p

/-- The participant that a task is about. -/
def partner? (p : Play) (call place : Nat) : Option Nat :=
  match p.system.calls[call]? with
  | some (.stopping (.closing tasks _ _)) => tasks[place]?.map (·.who)
  | some (.checking (.probing tasks _ _)) => tasks[place]?.map (·.who)
  | _ => none

/-- The turn of a task. It belongs to a stop or to a question for the health, so
    of the steps below those of the other kind are not taken. -/
def partTurn (p : Play) (call place : Nat) : Play :=
  match p.partner? call place with
  | none => p
  | some who =>
    let a := Actor.part call place
    let answer := p.ask who
    let p := (p.take a (.runClose call place answer)).take a (.runProbe call place answer)
    match p.perform a with
    | (p, some exit) =>
      (p.take a (.endClose call place exit.result)).take a (.endProbe call place exit.health)
    | (p, none) => p

/-- Whether a call that was begun has ended. -/
def isOver (p : Play) (call : Nat) : Bool :=
  match p.system.calls[call]? with
  | some (.ended _) => true
  | _ => false

/-- The service goes if nobody holds it any more. -/
def letGo (p : Play) : Play :=
  if p.dropped && !p.crew.relay.released && p.begun.all fun (_, call) => p.isOver call then
    { p with crew := { p.crew with relay := p.crew.relay.release }.rouseRelay }
  else p

/-- The turn of an actor. -/
def turn (p : Play) (a : Actor) : Play :=
  letGo <|
    match a with
    | .call number => p.callTurn number
    | .server => p.serverTurn
    | .part call place => p.partTurn call place
    | .relay | .worker _ => { p with crew := p.crew.turn a }

/-- What a break brings back comes back. -/
def comeBack (p : Play) : Comeback → Play
  | .actor a => p.rouse a
  | .aside call => p.take (.call call) (.bringBack call)

/-- The starts that wait for a signal. -/
def listeningStarts (p : Play) : List Nat :=
  (List.range p.system.calls.length).filter fun call =>
    match p.system.startPhase? call with
    | some (.waiting _ _) => true
    | _ => false

/-- The signals that have arrived are heard. A start that waits is roused if one
    of them is for it. -/
def hearSignals (p : Play) : Play :=
  let p := p.signals.foldl (fun p s => p.take .server (.hear s)) { p with signals := [] }
  if (p.system.settings.signals.first? p.system.heard).isSome then
    p.listeningStarts.foldl (fun p call => p.rouse (.call call)) p
  else p

/-- Whether it is time for a break. -/
def needsBreak (p : Play) : Bool :=
  p.crew.stage.needsBreak || (p.crew.stage.line.isEmpty && !p.signals.isEmpty)

/-- There is a break: signals are heard, and those who gave way come back. -/
def pause (p : Play) : Play :=
  let p := p.hearSignals
  let (back, stage) := p.crew.stage.resume
  back.foldl comeBack { p with crew := { p.crew with stage } }

/-- All take turns until none can go on, so many turns and breaks at most. -/
def settleWithin (p : Play) : Nat → Play
  | 0 => p
  | turns + 1 =>
    if p.needsBreak then settleWithin p.pause turns
    else match p.crew.stage.next? with
      | some (a, stage) => settleWithin ({ p with crew := { p.crew with stage } }.turn a) turns
      | none => p

/-- All take turns until none can go on. -/
def settle (p : Play) : Play :=
  { p with crew := p.crew.recount }.settleWithin Stage.patience

end Play

end Steward.Rehearsal
