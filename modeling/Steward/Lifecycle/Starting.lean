import Steward.Lifecycle.Call

/-!
# Starting

The steps of a start, and those of the server it launches.

A start is accepted in one look at the roster, which marks the service as
initialized and begins to listen for signals. Then the server is asked for its
name, the start is announced, and the server is launched as a task. From there
on the start waits for two things at once: a signal, which ends it well, and the
end of the server, which ends it with a failure if the server failed. A server
that returns without an error is reported and does not end the start.

The name is asked for after the service was marked. A server that panics there
leaves the service marked and itself not launched.

## Main definitions

* `System.enterStart` to `System.launch`: Up to the launch of the server.
* `System.runServer`, `System.endServer`: The server's task.
* `System.hear`, `System.heed`: A signal arrives, and the start sees it.
* `System.joinServer`: The start sees that the server has ended.
-/

namespace Steward.System

variable {ι : Type}

/-- The line that is logged when signals cannot be listened to. -/
def notListeningLine (service error : String) : LogLine :=
  { level := .error
    target := LogLine.lifecycleTarget
    message := "failed to register shutdown signals"
    fields := [("service", .bare service), ("error", .bare error)] }

/-- The start is accepted or refused. -/
def enterStart (s : System ι) (call : Nat) (listening : Except String Unit) : StepResult ι :=
  match s.startPhase? call with
  | some .entering =>
    match s.roster.admitStart s.settings.signals listening with
    | .ok (server, roster) => some ({ s with roster }.setStart call (.admitted server), [])
    | .error refusal =>
      let log := match refusal with
        | .notListening e => [.logged (notListeningLine s.settings.name e)]
        | _ => []
      let (s, effects) := s.finish call (.failed refusal.failure)
      some (s, log ++ effects)
  | _ => none

/-- The server is asked for its name. A panic ends the start. -/
def nameForStart (s : System ι) (call : Nat) (answer : Attempt String) : StepResult ι :=
  match s.startPhase? call with
  | some (.admitted server) =>
    match answer with
    | .ok name => some (s.setStart call (.named server name), [])
    | .error p => some (s.finish call (.panicked p))
  | _ => none

/-- The start is announced. -/
def announceStart (s : System ι) (call : Nat) : StepResult ι :=
  match s.startPhase? call with
  | some (.named server name) =>
    some (s.setStart call (.announced server name),
      [.published { kind := .serviceStarting, integration := some name }])
  | _ => none

/-- The server is launched as a task. -/
def launch (s : System ι) (call : Nat) : StepResult ι :=
  match s.startPhase? call with
  | some (.announced server name) =>
    some ({ s with
        serverTask := .spawned s.taskCount server
        taskCount := s.taskCount + 1 }.setStart call (.waiting name false),
      [.spawned .server])
  | _ => none

/-- The server begins to run. -/
def runServer (s : System ι) : StepResult ι :=
  match s.serverTask with
  | .spawned number who =>
    some ({ s with serverTask := .running number who }, [.invoked .start who])
  | _ => none

/-- The starts that are still waiting for the server. -/
def waitingStarts (s : System ι) : List Nat :=
  (List.range s.calls.length).filter fun call =>
    match s.startPhase? call with
    | some (.waiting _ false) => true
    | _ => false

/-- The server ends. The start that waits for it can go on. -/
def endServer (s : System ι) (result : Return) : StepResult ι :=
  match s.serverTask with
  | .running number who =>
    some ({ s with serverTask := .ended number result },
      .returned .start who :: s.waitingStarts.map .woken)
  | _ => none

/-- A signal arrives. It is kept if the service listens for it. -/
def hear (s : System ι) (signal : Signal) : StepResult ι :=
  if s.roster.initialized && s.settings.signals.list.contains signal then
    some ({ s with heard := s.heard ++ [signal] }, [])
  else some (s, [])

/-- The start sees that a signal has arrived, the first in the order of the
    settings if there are several, and ends. -/
def heed (s : System ι) (call : Nat) : StepResult ι :=
  match s.startPhase? call, s.settings.signals.first? s.heard with
  | some (.waiting _ _), some signal =>
    let (s, effects) := s.finish call .done
    some (s, .published { kind := .shutdownRequested, reason := some signal.name } :: effects)
  | _, _ => none

/-- The start sees that the server has ended. A failure ends the start; a return
    without an error is reported, and the start goes on to wait. -/
def joinServer (s : System ι) (call : Nat) : StepResult ι :=
  match s.startPhase? call, s.serverTask with
  | some (.waiting name false), .ended number result =>
    match ServerTask.leftBehind number result with
    | .ok () =>
      some (s.setStart call (.waiting name true),
        [.published { kind := .serverExited, integration := some name }])
    | .error cause =>
      let (s, effects) := s.finish call (.failed (startFailure.addCause cause))
      some (s, .published
        { kind := .serverFailed, integration := some name, reason := some cause.text } :: effects)
  | _, _ => none

end Steward.System
