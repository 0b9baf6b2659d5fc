import Steward.Lifecycle.Checking
import Steward.Lifecycle.GivingWay
import Steward.Lifecycle.Starting
import Steward.Lifecycle.Stopping

/-!
# The Lifecycle of a Service

Everything that can happen to a service, one step at a time.

An `Action` names a step and brings along whatever comes from outside: what a
participant answered, that a signal arrived, that the signals cannot be listened
to. `System.act` carries it out, or says that it is not possible now. A run is a
sequence of actions, so a statement about all runs is a statement about every
order in which calls can overlap and about everything that participants can do.

Between some steps nothing of the call itself has to be waited for. A program
with one thread takes such steps without a break; with several threads other
calls can come in between. Both are runs.

## Main definitions

* `Action`: What can happen.
* `System.act`: It happens.
* `System.run`: A sequence of actions.
* `Reachable`: The systems that runs lead to.

## Theorems

* `run_append`: Runs are composed of runs.
* `Reachable.run`: Running keeps to what can be reached.
-/

namespace Steward

variable {ι : Type}

/-- The calls that take their time. -/
inductive CallKind where
  | start
  | stop
  | status
deriving DecidableEq, Repr

/-- A call of a kind, before its first step. -/
def CallKind.begun : CallKind → Call ι
  | .start => .starting .entering
  | .stop => .stopping .arriving
  | .status => .checking .entering

/-- What can happen to a service. -/
inductive Action (ι : Type) where
  /-- A server is offered, and participants that are asked for their names give
      these answers. -/
  | serve (ask : Answers ι) (offered : Option ι)
  /-- A dependency is offered. -/
  | attach (ask : Answers ι) (offered : Option ι)
  /-- A registration is announced. -/
  | announceRegistered (call : Nat)
  /-- A call begins. -/
  | begin (kind : CallKind)
  | enterStart (call : Nat) (listening : Except String Unit)
  | nameForStart (call : Nat) (answer : Attempt String)
  | announceStart (call : Nat)
  | launch (call : Nat)
  | runServer
  | endServer (result : Return)
  | hear (signal : Signal)
  | heed (call : Nat)
  | joinServer (call : Nat)
  | approach (call : Nat)
  | enterStop (call : Nat)
  | announceStop (call : Nat)
  | nameForStop (call : Nat) (answer : Attempt String)
  | endDraining (call : Nat) (result : Return)
  | reportServer (call : Nat)
  | spawnCloses (call : Nat)
  | runClose (call place : Nat) (answer : Attempt String)
  | endClose (call place : Nat) (result : Return)
  | joinClose (call : Nat)
  | concludeStop (call : Nat)
  | markStopped (call : Nat)
  | announceStopped (call : Nat)
  | enterStatus (call : Nat)
  | runProbe (call place : Nat) (answer : Attempt String)
  | endProbe (call place : Nat) (answer : Attempt Health)
  | joinProbe (call : Nat)
  | concludeStatus (call : Nat)
  | setAside (call : Nat)
  | bringBack (call : Nat)

namespace System

/-- A call is made. Its number is the number of calls before it. -/
def addCall (s : System ι) (c : Call ι) : System ι :=
  { s with calls := s.calls ++ [c] }

/-- A registration is a call whose first step lies in making it. -/
def register (s : System ι) (kind : EventKind) (outcome : Registration × Roster ι) :
    System ι × List (Effect ι) :=
  let s := { s with roster := outcome.2 }
  let conclude (o : Outcome) : System ι × List (Effect ι) :=
    (s.addCall (.ended o), [.finished s.calls.length o])
  match outcome.1 with
  | .accepted name => (s.addCall (.registering { kind, integration := some name }), [])
  | .refused failure => conclude (.failed failure)
  | .panicked p => conclude (.panicked p)

/-- A registration is announced, and with that it ends. -/
def announceRegistered (s : System ι) (call : Nat) : StepResult ι :=
  match s.calls[call]? with
  | some (.registering notice) =>
    let (s, effects) := s.finish call .done
    some (s, .published notice :: effects)
  | _ => none

/-- Something happens, if it can. -/
def act (s : System ι) : Action ι → StepResult ι
  | .serve ask offered => some (s.register .serverRegistered (s.roster.serve ask offered))
  | .attach ask offered => some (s.register .dependencyAttached (s.roster.attach ask offered))
  | .announceRegistered call => s.announceRegistered call
  | .begin kind => some (s.addCall kind.begun, [])
  | .enterStart call listening => s.enterStart call listening
  | .nameForStart call answer => s.nameForStart call answer
  | .announceStart call => s.announceStart call
  | .launch call => s.launch call
  | .runServer => s.runServer
  | .endServer result => s.endServer result
  | .hear signal => s.hear signal
  | .heed call => s.heed call
  | .joinServer call => s.joinServer call
  | .approach call => s.approach call
  | .enterStop call => s.enterStop call
  | .announceStop call => s.announceStop call
  | .nameForStop call answer => s.nameForStop call answer
  | .endDraining call result => s.endDraining call result
  | .reportServer call => s.reportServer call
  | .spawnCloses call => s.spawnCloses call
  | .runClose call place answer => s.runClose call place answer
  | .endClose call place result => s.endClose call place result
  | .joinClose call => s.joinClose call
  | .concludeStop call => s.concludeStop call
  | .markStopped call => s.markStopped call
  | .announceStopped call => s.announceStopped call
  | .enterStatus call => s.enterStatus call
  | .runProbe call place answer => s.runProbe call place answer
  | .endProbe call place answer => s.endProbe call place answer
  | .joinProbe call => s.joinProbe call
  | .concludeStatus call => s.concludeStatus call
  | .setAside call => s.setAside call
  | .bringBack call => s.bringBack call

/-- A sequence of actions, with everything that shows of them. It is a run if
    each action is possible when its turn comes. -/
def run (s : System ι) : List (Action ι) → StepResult ι
  | [] => some (s, [])
  | a :: rest =>
    (s.act a).bind fun now => (now.1.run rest).map fun later => (later.1, now.2 ++ later.2)

/-- Nothing happens in the empty run. -/
@[simp] theorem run_nil (s : System ι) : s.run [] = some (s, []) := rfl

/-- Runs are composed of runs. -/
theorem run_append (s : System ι) (as bs : List (Action ι)) :
    s.run (as ++ bs) = (s.run as).bind fun first =>
      (first.1.run bs).map fun second => (second.1, first.2 ++ second.2) := by
  induction as generalizing s with
  | nil => simp
  | cons a rest ih =>
    rw [List.cons_append, run, run, Option.bind_assoc]
    congr 1
    funext now
    rw [ih]
    cases now.1.run rest with
    | none => rfl
    | some first => cases h : first.1.run bs <;> simp [h]

end System

/-- The systems that a service can come to. -/
inductive Reachable (settings : Settings) : System ι → Prop where
  | initial : Reachable settings (System.initial settings)
  | act {s t : System ι} {a : Action ι} {effects : List (Effect ι)} :
    Reachable settings s → s.act a = some (t, effects) → Reachable settings t

/-- Running keeps to what can be reached. -/
theorem Reachable.run {settings : Settings} {s t : System ι} {as : List (Action ι)}
    {effects : List (Effect ι)} (hs : Reachable settings s) (h : s.run as = some (t, effects)) :
    Reachable settings t := by
  induction as generalizing s effects with
  | nil =>
    rw [System.run_nil, Option.some.injEq, Prod.mk.injEq] at h
    exact h.1 ▸ hs
  | cons a rest ih =>
    rw [System.run, Option.bind_eq_some_iff] at h
    obtain ⟨now, hnow, h⟩ := h
    rw [Option.map_eq_some_iff] at h
    obtain ⟨⟨u, more⟩, hlater, h⟩ := h
    obtain ⟨rfl, -⟩ := Prod.mk.inj h
    exact ih (hs.act hnow) hlater

end Steward
