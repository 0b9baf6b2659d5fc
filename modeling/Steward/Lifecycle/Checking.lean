import Steward.Lifecycle.Call

/-!
# Checking

The steps of a question for the health of the service.

One look at the roster fixes the participants to ask, in whatever state the
service is. Each is asked in a task of its own, and the answers are gathered in
the order in which they come, as far as the call does not give way to others
meanwhile. A participant that panics counts as one that
cannot be reached, and so does one whose task dies because it cannot tell its
name.

## Main definitions

* `System.enterStatus`: The participants are fixed and their tasks spawned.
* `System.runProbe`, `System.endProbe`: A participant is asked and answers.
* `System.joinProbe`: An answer is gathered.
* `System.concludeStatus`: The report is made and announced.
-/

namespace Steward.System

variable {ι : Type}

/-- The event that tells a report. -/
def healthNotice (r : HealthReport) : Notice :=
  { kind := .healthChecked, reason := r.error.map Failure.text, code := some r.code }

/-- A task is spawned for every participant. -/
def enterStatus (s : System ι) (call : Nat) : StepResult ι :=
  match s.statusPhase? call with
  | some .entering =>
    let tasks := s.newTasks s.roster.participants
    some ({ s with taskCount := s.taskCount + tasks.length }.setStatus call
      (.probing tasks {} {}), spawnEffects call tasks)
  | _ => none

/-- A task begins: it asks the participant for its name and then for its health.
    A panic in the name kills the task. -/
def runProbe (s : System ι) (call place : Nat) (answer : Attempt String) : StepResult ι :=
  match s.statusPhase? call with
  | some (.probing tasks tray tally) =>
    match tasks[place]? with
    | some { number, who, state := .spawned } =>
      match answer with
      | .ok name =>
        some (s.setStatus call
            (.probing (tasks.set place { number, who, state := .running name }) tray tally),
          [.invoked .status who])
      | .error p =>
        some (s.setStatus call
            (.probing (tasks.set place { number, who, state := .finished })
              (tray.add (.unavailable (.died number p))) tally),
          [.woken call])
    | _ => none
  | _ => none

/-- A participant answers. -/
def endProbe (s : System ι) (call place : Nat) (answer : Attempt Health) : StepResult ι :=
  match s.statusPhase? call with
  | some (.probing tasks tray tally) =>
    match tasks[place]? with
    | some { number, who, state := .running name } =>
      some (s.setStatus call
          (.probing (tasks.set place { number, who, state := .finished })
            (tray.add (probed name answer)) tally),
        [.returned .status who, .woken call])
    | _ => none
  | _ => none

/-- The next answer is gathered. -/
def joinProbe (s : System ι) (call : Nat) : StepResult ι :=
  match s.statusPhase? call with
  | some (.probing tasks tray tally) =>
    tray.take?.map fun (h, tray) => (s.setStatus call (.probing tasks tray (tally.add h)), [])
  | _ => none

/-- All answers were gathered: the report is made and announced. -/
def concludeStatus (s : System ι) (call : Nat) : StepResult ι :=
  match s.statusPhase? call with
  | some (.probing tasks tray tally) =>
    if tray.isEmpty && tasks.all (·.state = .finished) then
      let (s, effects) := s.finish call (.report tally.report)
      some (s, .published (healthNotice tally.report) :: effects)
    else none
  | _ => none

end Steward.System
