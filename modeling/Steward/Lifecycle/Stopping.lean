import Steward.Lifecycle.Call

/-!
# Stopping

The steps of a stop.

Stops pass a turnstile, so at most one of them does anything at a time. The one
that has passed is accepted in one look at the roster, which also fixes the
participants it deals with. It stops the server first and waits for it. Then it
closes all dependencies at once, each in a task of its own, and looks at what
they leave in the order in which they end, as far as it does not give way to
others meanwhile. Whatever fails is gathered and stands in the way of nothing:
every dependency is closed all the same.

If nothing has failed the service is marked as stopped. Otherwise it stays as it
was, and another stop does everything once more.

Two things are told apart when a participant breaks off. Its own code is
guarded, and a panic in it becomes an error like any other. Its name is asked
for outside that guard: a server that panics there ends the stop with a panic,
a dependency that does kills its task and nothing else.

## Main definitions

* `System.approach`, `System.enterStop`: Up to the acceptance.
* `System.announceStop` to `System.reportServer`: The server.
* `System.spawnCloses` to `System.joinClose`: The dependencies.
* `System.concludeStop` to `System.announceStopped`: The end.
-/

namespace Steward.System

variable {ι : Type}

/-- The line that is logged when the closing of a dependency has died. -/
def closeDiedLine (service error : String) : LogLine :=
  { level := .error
    target := LogLine.lifecycleTarget
    message := "dependency close task failed"
    fields := [("service", .bare service), ("error", .bare error)] }

/-- The event that tells how a participant was stopped or closed. -/
def closeNotice (good : EventKind) (name : String) : Except Cause Unit → Notice
  | .ok () => { kind := good, integration := some name }
  | .error cause =>
    { kind := .closeFailed, integration := some name, reason := some cause.text }

/-- The cause that a result adds to the failure of a stop, if it is one. -/
def causeOf : Except Cause Unit → List Cause
  | .ok () => []
  | .error cause => [cause]

/-- A stop ends and leaves the turnstile. The first in line holds it from then
    on. -/
def finishStop (s : System ι) (call : Nat) (o : Outcome) : System ι × List (Effect ι) :=
  let (s, effects) := s.finish call o
  let s := { s with turnstile := s.turnstile.leave }
  match s.turnstile.holder with
  | some next => (s.setStop next .entering, .woken next :: effects)
  | none => (s, effects)

/-- The stop comes to the turnstile. -/
def approach (s : System ι) (call : Nat) : StepResult ι :=
  match s.stopPhase? call with
  | some .arriving =>
    let phase : StopPhase ι := if s.turnstile.holder.isNone then .entering else .queued
    some ({ s with turnstile := s.turnstile.enter call }.setStop call phase, [])
  | _ => none

/-- The stop is accepted or refused. -/
def enterStop (s : System ι) (call : Nat) : StepResult ι :=
  match s.stopPhase? call with
  | some .entering =>
    match s.roster.admitStop with
    | .ok (server, dependencies) => some (s.setStop call (.admitted server dependencies), [])
    | .error refusal => some (s.finishStop call (.failed refusal.failure))
  | _ => none

/-- The stop is announced. -/
def announceStop (s : System ι) (call : Nat) : StepResult ι :=
  match s.stopPhase? call with
  | some (.admitted server dependencies) =>
    some (s.setStop call (.announced server dependencies),
      [.published { kind := .serviceStopping }])
  | _ => none

/-- The server is asked for its name and then to stop. A panic in the name ends
    the stop. Without a server there is nobody to ask. -/
def nameForStop (s : System ι) (call : Nat) (answer : Attempt String) : StepResult ι :=
  match s.stopPhase? call with
  | some (.announced none dependencies) => some (s.setStop call (.spawning dependencies []), [])
  | some (.announced (some server) dependencies) =>
    match answer with
    | .ok name =>
      some (s.setStop call (.draining server name dependencies), [.invoked .stop server])
    | .error p => some (s.finishStop call (.panicked p))
  | _ => none

/-- The server is done with stopping. -/
def endDraining (s : System ι) (call : Nat) (result : Return) : StepResult ι :=
  match s.stopPhase? call with
  | some (.draining server name dependencies) =>
    some (s.setStop call (.drained name (guarded name result) dependencies),
      [.returned .stop server])
  | _ => none

/-- How the server stopped is announced. -/
def reportServer (s : System ι) (call : Nat) : StepResult ι :=
  match s.stopPhase? call with
  | some (.drained name result dependencies) =>
    some (s.setStop call (.spawning dependencies (causeOf result)),
      [.published (closeNotice .serverStopped name result)])
  | _ => none

/-- A task is spawned for every dependency. -/
def spawnCloses (s : System ι) (call : Nat) : StepResult ι :=
  match s.stopPhase? call with
  | some (.spawning dependencies causes) =>
    let tasks := s.newTasks dependencies
    some ({ s with taskCount := s.taskCount + tasks.length }.setStop call
      (.closing tasks {} causes), spawnEffects call tasks)
  | _ => none

/-- A task begins: it asks the dependency for its name and then to close. A panic
    in the name kills the task. -/
def runClose (s : System ι) (call place : Nat) (answer : Attempt String) : StepResult ι :=
  match s.stopPhase? call with
  | some (.closing tasks tray causes) =>
    match tasks[place]? with
    | some { number, who, state := .spawned } =>
      match answer with
      | .ok name =>
        some (s.setStop call
            (.closing (tasks.set place { number, who, state := .running name }) tray causes),
          [.invoked .close who])
      | .error p =>
        some (s.setStop call
            (.closing (tasks.set place { number, who, state := .finished })
              (tray.add (.died (.died number p))) causes),
          [.woken call])
    | _ => none
  | _ => none

/-- A dependency is done with closing. -/
def endClose (s : System ι) (call place : Nat) (result : Return) : StepResult ι :=
  match s.stopPhase? call with
  | some (.closing tasks tray causes) =>
    match tasks[place]? with
    | some { number, who, state := .running name } =>
      some (s.setStop call
          (.closing (tasks.set place { number, who, state := .finished })
            (tray.add (.returned name (guarded name result))) causes),
        [.returned .close who, .woken call])
    | _ => none
  | _ => none

/-- The stop looks at the next closing that has ended. -/
def joinClose (s : System ι) (call : Nat) : StepResult ι :=
  match s.stopPhase? call with
  | some (.closing tasks tray causes) =>
    match tray.take? with
    | some (.returned name result, tray) =>
      some (s.setStop call (.closing tasks tray (causes ++ causeOf result)),
        [.published (closeNotice .dependencyClosed name result)])
    | some (.died cause, tray) =>
      some (s.setStop call (.closing tasks tray (causes ++ [cause])),
        [.logged (closeDiedLine s.settings.name cause.text)])
    | none => none
  | _ => none

/-- Everything has ended and was looked at: the stop has failed or succeeded. -/
def concludeStop (s : System ι) (call : Nat) : StepResult ι :=
  match s.stopPhase? call with
  | some (.closing tasks tray causes) =>
    if tray.isEmpty && tasks.all (·.state = .finished) then
      if causes.isEmpty then some (s.setStop call .succeeded, [])
      else
        let (s, effects) := s.finishStop call (.failed (stopFailure.addCauses causes))
        some (s, .published
          { kind := .stopFailed
            reason := some (toString causes.length ++ " failure(s)") } :: effects)
    else none
  | _ => none

/-- The service is marked as stopped. -/
def markStopped (s : System ι) (call : Nat) : StepResult ι :=
  match s.stopPhase? call with
  | some .succeeded => some ({ s with roster := s.roster.markStopped }.setStop call .marked, [])
  | _ => none

/-- The end of the service is announced. -/
def announceStopped (s : System ι) (call : Nat) : StepResult ι :=
  match s.stopPhase? call with
  | some .marked =>
    let (s, effects) := s.finishStop call .done
    some (s, .published { kind := .serviceStopped } :: effects)
  | _ => none

end Steward.System
