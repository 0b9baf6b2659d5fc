import Steward.Health.Report
import Steward.Lifecycle.Tray
import Steward.Log
import Steward.Roster
import Steward.Turnstile

/-!
# Calls in Progress

A service and the calls that are being made to it, at one moment.

Calls overlap. Each of them is somewhere on its way, and its *phase* says where
and holds what it has learned so far. Between two phases lies one step: a look
at the roster and the change that follows from it, an event, a word to a
participant, or the end of something that ran on its own. Whatever else happens
to a service happens between the steps of its calls, so an order of steps is all
there is to know about how calls overlap.

Work that runs beside a call is a *task* with a number of its own: the server,
each dependency that is being closed, each participant that is asked for its
health. A task that dies of a panic leaves the panic to whoever joins it.

A participant's own code is foreign. What it returns, when, and whether it
panics instead comes with the steps and is not known beforehand.

## Main definitions

* `Method`, `Return`: What participants are asked to do, and how that ends.
* `Task`: Work beside a call.
* `StartPhase`, `StopPhase`, `StatusPhase`, `Call`: Calls on their way.
* `System`: The service and all its calls.
* `Effect`: What a step shows to the outside.
-/

namespace Steward

/-- What a participant can be asked to do. -/
inductive Method where
  | start
  | stop
  | close
  | status
deriving DecidableEq, Repr

/-- How a participant's work ends: it returns, with or without an error, or it
    panics. -/
abbrev Return := Attempt (Except Cause Unit)

/-- What is reported of a participant that panicked. -/
def panicFailure (name : String) (p : Panic) : Failure :=
  (Failure.new ("Integration " ++ name ++ " panicked")).addFinding ⟨p.message, []⟩

/-- A participant's work with a panic turned into an error. -/
def guarded (name : String) : Return → Except Cause Unit
  | .ok result => result
  | .error p => .error (.failure (panicFailure name p))

/-- A participant's answer with a panic turned into ill health. -/
def probed (name : String) : Attempt Health → Health
  | .ok h => h
  | .error p => .unavailable (.failure (panicFailure name p))

/-- Where a task stands. -/
inductive TaskState where
  /-- It has not begun. -/
  | spawned
  /-- It has asked for the name and runs the participant's code. -/
  | running (name : String)
  /-- It has ended, or died. -/
  | finished
deriving DecidableEq, Repr

/-- Work that runs beside a call. -/
structure Task (ι : Type) where
  /-- The number of the task. -/
  number : Nat
  who : ι
  state : TaskState := .spawned
deriving DecidableEq, Repr

/-- What the closing of a dependency leaves. -/
inductive Closing where
  /-- The dependency of this name was closed, or refused to be. -/
  | returned (name : String) (result : Except Cause Unit)
  /-- The task died. -/
  | died (error : Cause)

/-- How far a start has come. -/
inductive StartPhase (ι : Type) where
  /-- It has begun. -/
  | entering
  /-- It is accepted. -/
  | admitted (server : ι)
  /-- The server has told its name. -/
  | named (server : ι) (name : String)
  /-- The start has been announced. -/
  | announced (server : ι) (name : String)
  /-- The server has been launched. `exited` says that it is known to have
      returned without an error. -/
  | waiting (name : String) (exited : Bool)

/-- How far a stop has come. -/
inductive StopPhase (ι : Type) where
  /-- It has begun. -/
  | arriving
  /-- It waits at the turnstile. -/
  | queued
  /-- It holds the turnstile. -/
  | entering
  /-- It is accepted, with these participants. -/
  | admitted (server : Option ι) (dependencies : List ι)
  /-- The stop has been announced. -/
  | announced (server : Option ι) (dependencies : List ι)
  /-- The server is being stopped. -/
  | draining (server : ι) (name : String) (dependencies : List ι)
  /-- The server has been stopped, or refused to be. -/
  | drained (name : String) (result : Except Cause Unit) (dependencies : List ι)
  /-- The dependencies are about to be closed. -/
  | spawning (dependencies : List ι) (causes : List Cause)
  /-- They are being closed. What has ended and was not looked at yet is on the
      tray. -/
  | closing (tasks : List (Task ι)) (tray : Tray Closing) (causes : List Cause)
  /-- Nothing has failed. -/
  | succeeded
  /-- The service is marked as stopped. -/
  | marked

/-- How far a question for the health of the service has come. -/
inductive StatusPhase (ι : Type) where
  /-- It has begun. -/
  | entering
  /-- The participants are being asked. Answers that were not looked at yet are on
      the tray. -/
  | probing (tasks : List (Task ι)) (tray : Tray Health) (tally : Tally)

/-- How a call ends. -/
inductive Outcome where
  /-- It went well. -/
  | done
  /-- It was refused or has failed. -/
  | failed (failure : Failure)
  /-- The health of the service. -/
  | report (report : HealthReport)
  /-- A participant's panic came through to the caller. -/
  | panicked (panic : Panic)

/-- A call on its way. -/
inductive Call (ι : Type) where
  /-- A participant was registered and is about to be announced. -/
  | registering (notice : Notice)
  | starting (phase : StartPhase ι)
  | stopping (phase : StopPhase ι)
  | checking (phase : StatusPhase ι)
  /-- The call has ended. -/
  | ended (outcome : Outcome)

/-- The task that runs the server. A service launches at most one. -/
inductive ServerTask (ι : Type) where
  /-- The server was never launched. -/
  | absent
  | spawned (number : Nat) (who : ι)
  | running (number : Nat) (who : ι)
  | ended (number : Nat) (result : Return)

/-- What the server's task leaves to the one who joins it. -/
def ServerTask.leftBehind (number : Nat) : Return → Except Cause Unit
  | .ok result => result
  | .error p => .error (.died number p)

/-- A service and all calls that were ever made to it. -/
structure System (ι : Type) where
  settings : Settings
  roster : Roster ι := {}
  /-- Lets one stop through at a time. -/
  turnstile : Turnstile := {}
  /-- The calls by their numbers. -/
  calls : List (Call ι) := []
  serverTask : ServerTask ι := .absent
  /-- The signals that have arrived since the start was accepted. -/
  heard : List Signal := []
  /-- How many tasks there were. -/
  taskCount : Nat := 0

/-- A task, by the call it belongs to and its place there. -/
inductive TaskRef where
  | server
  | part (call place : Nat)
deriving DecidableEq, Repr

/-- What a step shows to the outside. -/
inductive Effect (ι : Type) where
  /-- An event is published. -/
  | published (notice : Notice)
  /-- A participant is asked to do something. -/
  | invoked (method : Method) (who : ι)
  /-- A participant is done with it. -/
  | returned (method : Method) (who : ι)
  /-- A line is written to the log. -/
  | logged (line : LogLine)
  /-- A task is ready to begin. -/
  | spawned (task : TaskRef)
  /-- A call that waited can go on. -/
  | woken (call : Nat)
  /-- A call gives way to others, with something put aside. -/
  | gaveWay (call : Nat)
  /-- A call has ended. -/
  | finished (call : Nat) (outcome : Outcome)

/-- A step: the system after it and what it shows, or nothing if the step is not
    the next one of its call. -/
abbrev StepResult (ι : Type) := Option (System ι × List (Effect ι))

namespace System

variable {ι : Type}

/-- A service to which no call was made. -/
def initial (settings : Settings) : System ι :=
  { settings }

/-- The system with a call in another phase. -/
def setCall (s : System ι) (call : Nat) (c : Call ι) : System ι :=
  { s with calls := s.calls.set call c }

/-- A start in another phase. -/
def setStart (s : System ι) (call : Nat) (p : StartPhase ι) : System ι :=
  s.setCall call (.starting p)

/-- A stop in another phase. -/
def setStop (s : System ι) (call : Nat) (p : StopPhase ι) : System ι :=
  s.setCall call (.stopping p)

/-- A question for the health in another phase. -/
def setStatus (s : System ι) (call : Nat) (p : StatusPhase ι) : System ι :=
  s.setCall call (.checking p)

/-- The phase of a start. -/
def startPhase? (s : System ι) (call : Nat) : Option (StartPhase ι) :=
  match s.calls[call]? with
  | some (.starting p) => some p
  | _ => none

/-- The phase of a stop. -/
def stopPhase? (s : System ι) (call : Nat) : Option (StopPhase ι) :=
  match s.calls[call]? with
  | some (.stopping p) => some p
  | _ => none

/-- The phase of a question for the health. -/
def statusPhase? (s : System ι) (call : Nat) : Option (StatusPhase ι) :=
  match s.calls[call]? with
  | some (.checking p) => some p
  | _ => none

/-- A call ends. -/
def finish (s : System ι) (call : Nat) (o : Outcome) : System ι × List (Effect ι) :=
  (s.setCall call (.ended o), [.finished call o])

/-- Tasks for participants, numbered on from the last one. -/
def newTasks (s : System ι) (who : List ι) : List (Task ι) :=
  who.zipIdx.map fun (w, i) => { number := s.taskCount + i, who := w }

/-- What shows of the tasks of a call when they are spawned. -/
def spawnEffects (call : Nat) (tasks : List (Task ι)) : List (Effect ι) :=
  (List.range tasks.length).map fun place => .spawned (.part call place)

end System

end Steward
