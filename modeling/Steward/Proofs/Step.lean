import Steward.Proofs.Trace

/-!
# What a Step Can Do

Every step of a system, sorted by the call that takes it and by what becomes of
that call.

`System.act` is a function that looks at the phase of a call and gives up where
the action does not fit. A proof about a step would have to open one such
function after the other, and a proof of an invariant all of them. The relations
of this module say once and for all what comes out. A call on its way *moves* to
another phase or *ends*; each of the three kinds of call has a relation for its
moves and one for its ends, which name the phase before, the action, what shows,
and the phase after. `Step` puts them together and adds what is not a matter of
one call alone: registrations, the server's own task, the turnstile, and the
moves that write to the roster or to the server's task. The steps that no stop
takes are kept together in `StepElsewhere`, since a proof about stops has the
same thing to say of all of them.

A step is described with everything it changes, so nothing that follows needs
to look at `System.act` again.

## Main definitions

* `Action.call?`: The call that takes an action.
* `Closing.causes`, `Closing.notice?`: What a closing adds to a stop.
* `StopPhase.toSpawn`, `StopPhase.rosterAfter`: What a stop changes in going on
  from a phase.
* `StartMove`, `StopMove`, `StatusMove`: A call goes on.
* `StartEnd`, `StopEnd`, `StatusEnd`: A call ends.
* `StepElsewhere`, `Step`: The steps of a system.
-/

namespace Steward

variable {ι : Type}

/-- The call that takes an action, if one does. -/
def Action.call? : Action ι → Option Nat
  | .serve _ _ | .attach _ _ | .begin _ | .runServer | .endServer _ | .hear _ => none
  | .announceRegistered call | .enterStart call _ | .nameForStart call _ | .announceStart call
  | .launch call | .heed call | .joinServer call | .approach call | .enterStop call
  | .announceStop call | .nameForStop call _ | .endDraining call _ | .reportServer call
  | .spawnCloses call | .runClose call _ _ | .endClose call _ _ | .joinClose call
  | .concludeStop call | .markStopped call | .announceStopped call | .enterStatus call
  | .runProbe call _ _ | .endProbe call _ _ | .joinProbe call | .concludeStatus call
  | .setAside call | .bringBack call => some call

namespace Closing

/-- What a closing adds to the failure of its stop. -/
def causes : Closing → List Cause
  | .returned _ result => System.causeOf result
  | .died cause => [cause]

/-- The event that tells of a closing. None tells of a task that died. -/
def notice? : Closing → Option Notice
  | .returned name result => some (System.closeNotice .dependencyClosed name result)
  | .died _ => none

/-- What a stop shows of a closing it looks at: the event, or a line in the log
    of the service. -/
def shown (service : String) : Closing → List (Effect ι)
  | .returned name result => [.published (System.closeNotice .dependencyClosed name result)]
  | .died cause => [.logged (System.closeDiedLine service cause.text)]

end Closing

/-- The dependencies that a stop is about to spawn tasks for. -/
def StopPhase.toSpawn : StopPhase ι → List ι
  | .spawning deps _ => deps
  | _ => []

/-- The roster after a stop has gone on from a phase: marked if nothing has
    failed, and left alone otherwise. -/
def StopPhase.rosterAfter (r : Roster ι) : StopPhase ι → Roster ι
  | .succeeded => r.markStopped
  | _ => r

/-- What is logged of a start that is not accepted. -/
def StartRefusal.logged (service : String) : StartRefusal → List (Effect ι)
  | .notListening error => [.logged (System.notListeningLine service error)]
  | _ => []

namespace System

theorem startPhase?_eq_some {s : System ι} {call : Nat} {p : StartPhase ι} :
    s.startPhase? call = some p ↔ s.calls[call]? = some (.starting p) := by
  unfold startPhase?
  split <;> simp_all

theorem stopPhase?_eq_some {s : System ι} {call : Nat} {p : StopPhase ι} :
    s.stopPhase? call = some p ↔ s.calls[call]? = some (.stopping p) := by
  unfold stopPhase?
  split <;> simp_all

theorem statusPhase?_eq_some {s : System ι} {call : Nat} {p : StatusPhase ι} :
    s.statusPhase? call = some p ↔ s.calls[call]? = some (.checking p) := by
  unfold statusPhase?
  split <;> simp_all

/-- A start goes on, and nothing but its phase changes. -/
inductive StartMove (s : System ι) (call : Nat) :
    StartPhase ι → Action ι → List (Effect ι) → StartPhase ι → Prop where
  | name {server : ι} {name : String} :
    StartMove s call (.admitted server) (.nameForStart call (.ok name)) [] (.named server name)
  | announce {server : ι} {name : String} :
    StartMove s call (.named server name) (.announceStart call)
      [.published { kind := .serviceStarting, integration := some name }]
      (.announced server name)
  | exited {name : String} {number : Nat} (h : s.serverTask = .ended number (.ok (.ok ()))) :
    StartMove s call (.waiting name false) (.joinServer call)
      [.published { kind := .serverExited, integration := some name }] (.waiting name true)

/-- A start ends. -/
inductive StartEnd (s : System ι) (call : Nat) :
    StartPhase ι → Action ι → List (Effect ι) → Outcome → Prop where
  | refused {listening : Except String Unit} {refusal : StartRefusal}
      (h : s.roster.admitStart s.settings.signals listening = .error refusal) :
    StartEnd s call .entering (.enterStart call listening) (refusal.logged s.settings.name)
      (.failed refusal.failure)
  | nameless {server : ι} {p : Panic} :
    StartEnd s call (.admitted server) (.nameForStart call (.error p)) [] (.panicked p)
  | heeded {name : String} {exited : Bool} {signal : Signal}
      (h : s.settings.signals.first? s.heard = some signal) :
    StartEnd s call (.waiting name exited) (.heed call)
      [.published { kind := .shutdownRequested, reason := some signal.name }] .done
  | failed {name : String} {number : Nat} {result : Return} {cause : Cause}
      (h : s.serverTask = .ended number result)
      (hcause : ServerTask.leftBehind number result = .error cause) :
    StartEnd s call (.waiting name false) (.joinServer call)
      [.published
        { kind := .serverFailed, integration := some name, reason := some cause.text }]
      (.failed (startFailure.addCause cause))

/-- A stop that has passed the turnstile goes on. Besides its phase there may
    change the count of tasks, by `StopPhase.toSpawn`, and the roster, by
    `StopPhase.rosterAfter`. -/
inductive StopMove (s : System ι) (call : Nat) :
    StopPhase ι → Action ι → List (Effect ι) → StopPhase ι → Prop where
  | accept {server : Option ι} {deps : List ι} (h : s.roster.admitStop = .ok (server, deps)) :
    StopMove s call .entering (.enterStop call) [] (.admitted server deps)
  | announce {server : Option ι} {deps : List ι} :
    StopMove s call (.admitted server deps) (.announceStop call)
      [.published { kind := .serviceStopping }] (.announced server deps)
  | pass {deps : List ι} {answer : Attempt String} :
    StopMove s call (.announced none deps) (.nameForStop call answer) [] (.spawning deps [])
  | ask {server : ι} {deps : List ι} {name : String} :
    StopMove s call (.announced (some server) deps) (.nameForStop call (.ok name))
      [.invoked .stop server] (.draining server name deps)
  | drained {server : ι} {name : String} {deps : List ι} {result : Return} :
    StopMove s call (.draining server name deps) (.endDraining call result)
      [.returned .stop server] (.drained name (guarded name result) deps)
  | report {name : String} {result : Except Cause Unit} {deps : List ι} :
    StopMove s call (.drained name result deps) (.reportServer call)
      [.published (closeNotice .serverStopped name result)] (.spawning deps (causeOf result))
  | spawn {deps : List ι} {causes : List Cause} :
    StopMove s call (.spawning deps causes) (.spawnCloses call)
      (spawnEffects call (s.newTasks deps)) (.closing (s.newTasks deps) {} causes)
  | close {tasks : List (Task ι)} {tray : Tray Closing} {causes : List Cause}
      {place number : Nat} {who : ι} {name : String}
      (h : tasks[place]? = some ⟨number, who, .spawned⟩) :
    StopMove s call (.closing tasks tray causes) (.runClose call place (.ok name))
      [.invoked .close who]
      (.closing (tasks.set place ⟨number, who, .running name⟩) tray causes)
  | died {tasks : List (Task ι)} {tray : Tray Closing} {causes : List Cause}
      {place number : Nat} {who : ι} {p : Panic}
      (h : tasks[place]? = some ⟨number, who, .spawned⟩) :
    StopMove s call (.closing tasks tray causes) (.runClose call place (.error p))
      [.woken call]
      (.closing (tasks.set place ⟨number, who, .finished⟩)
        (tray.add (.died (.died number p))) causes)
  | closed {tasks : List (Task ι)} {tray : Tray Closing} {causes : List Cause}
      {place number : Nat} {who : ι} {name : String} {result : Return}
      (h : tasks[place]? = some ⟨number, who, .running name⟩) :
    StopMove s call (.closing tasks tray causes) (.endClose call place result)
      [.returned .close who, .woken call]
      (.closing (tasks.set place ⟨number, who, .finished⟩)
        (tray.add (.returned name (guarded name result))) causes)
  | take {tasks : List (Task ι)} {tray rest : Tray Closing} {causes : List Cause}
      {closing : Closing} (h : tray.take? = some (closing, rest)) :
    StopMove s call (.closing tasks tray causes) (.joinClose call)
      (closing.shown s.settings.name) (.closing tasks rest (causes ++ closing.causes))
  | setAside {tasks : List (Task ι)} {tray rest : Tray Closing} {causes : List Cause}
      (h : tray.setAside? = some rest) :
    StopMove s call (.closing tasks tray causes) (.setAside call) [.gaveWay call]
      (.closing tasks rest causes)
  | bringBack {tasks : List (Task ι)} {tray rest : Tray Closing} {causes : List Cause}
      (h : tray.bringBack? = some rest) :
    StopMove s call (.closing tasks tray causes) (.bringBack call) [.woken call]
      (.closing tasks rest causes)
  | succeed {tasks : List (Task ι)} {tray : Tray Closing} (htray : tray.isEmpty = true)
      (htasks : ∀ task ∈ tasks, task.state = .finished) :
    StopMove s call (.closing tasks tray []) (.concludeStop call) [] .succeeded
  | mark : StopMove s call .succeeded (.markStopped call) [] .marked

/-- A stop ends, and leaves the turnstile with that. -/
inductive StopEnd (s : System ι) (call : Nat) :
    StopPhase ι → Action ι → List (Effect ι) → Outcome → Prop where
  | refused {refusal : StopRefusal} (h : s.roster.admitStop = .error refusal) :
    StopEnd s call .entering (.enterStop call) [] (.failed refusal.failure)
  | nameless {server : ι} {deps : List ι} {p : Panic} :
    StopEnd s call (.announced (some server) deps) (.nameForStop call (.error p)) []
      (.panicked p)
  | failed {tasks : List (Task ι)} {tray : Tray Closing} {causes : List Cause}
      (htray : tray.isEmpty = true) (htasks : ∀ task ∈ tasks, task.state = .finished)
      (hcauses : causes ≠ []) :
    StopEnd s call (.closing tasks tray causes) (.concludeStop call)
      [.published
        { kind := .stopFailed, reason := some (toString causes.length ++ " failure(s)") }]
      (.failed (stopFailure.addCauses causes))
  | done :
    StopEnd s call .marked (.announceStopped call) [.published { kind := .serviceStopped }] .done

/-- A question for the health goes on, and nothing but its phase changes. -/
inductive StatusMove (call : Nat) :
    StatusPhase ι → Action ι → List (Effect ι) → StatusPhase ι → Prop where
  | ask {tasks : List (Task ι)} {tray : Tray Health} {tally : Tally}
      {place number : Nat} {who : ι} {name : String}
      (h : tasks[place]? = some ⟨number, who, .spawned⟩) :
    StatusMove call (.probing tasks tray tally) (.runProbe call place (.ok name))
      [.invoked .status who]
      (.probing (tasks.set place ⟨number, who, .running name⟩) tray tally)
  | died {tasks : List (Task ι)} {tray : Tray Health} {tally : Tally}
      {place number : Nat} {who : ι} {p : Panic}
      (h : tasks[place]? = some ⟨number, who, .spawned⟩) :
    StatusMove call (.probing tasks tray tally) (.runProbe call place (.error p)) [.woken call]
      (.probing (tasks.set place ⟨number, who, .finished⟩)
        (tray.add (.unavailable (.died number p))) tally)
  | answered {tasks : List (Task ι)} {tray : Tray Health} {tally : Tally}
      {place number : Nat} {who : ι} {name : String} {answer : Attempt Health}
      (h : tasks[place]? = some ⟨number, who, .running name⟩) :
    StatusMove call (.probing tasks tray tally) (.endProbe call place answer)
      [.returned .status who, .woken call]
      (.probing (tasks.set place ⟨number, who, .finished⟩) (tray.add (probed name answer)) tally)
  | take {tasks : List (Task ι)} {tray rest : Tray Health} {tally : Tally} {health : Health}
      (h : tray.take? = some (health, rest)) :
    StatusMove call (.probing tasks tray tally) (.joinProbe call) []
      (.probing tasks rest (tally.add health))
  | setAside {tasks : List (Task ι)} {tray rest : Tray Health} {tally : Tally}
      (h : tray.setAside? = some rest) :
    StatusMove call (.probing tasks tray tally) (.setAside call) [.gaveWay call]
      (.probing tasks rest tally)
  | bringBack {tasks : List (Task ι)} {tray rest : Tray Health} {tally : Tally}
      (h : tray.bringBack? = some rest) :
    StatusMove call (.probing tasks tray tally) (.bringBack call) [.woken call]
      (.probing tasks rest tally)

/-- A question for the health ends. -/
inductive StatusEnd (call : Nat) :
    StatusPhase ι → Action ι → List (Effect ι) → Outcome → Prop where
  | concluded {tasks : List (Task ι)} {tray : Tray Health} {tally : Tally}
      (htray : tray.isEmpty = true) (htasks : ∀ task ∈ tasks, task.state = .finished) :
    StatusEnd call (.probing tasks tray tally) (.concludeStatus call)
      [.published (healthNotice tally.report)] (.report tally.report)

/-- The steps that no stop takes. A stop may begin in one of them. -/
inductive StepElsewhere (s : System ι) :
    Action ι → System ι → List (Effect ι) → Prop where
  | serve {ask : Answers ι} {offered : Option ι} :
    StepElsewhere s (.serve ask offered) (s.register .serverRegistered (s.roster.serve ask offered)).1
      (s.register .serverRegistered (s.roster.serve ask offered)).2
  | attach {ask : Answers ι} {offered : Option ι} :
    StepElsewhere s (.attach ask offered) (s.register .dependencyAttached (s.roster.attach ask offered)).1
      (s.register .dependencyAttached (s.roster.attach ask offered)).2
  | announceRegistered {call : Nat} {notice : Notice}
      (h : s.calls[call]? = some (.registering notice)) :
    StepElsewhere s (.announceRegistered call) (s.setCall call (.ended .done))
      [.published notice, .finished call .done]
  | begin {kind : CallKind} : StepElsewhere s (.begin kind) (s.addCall kind.begun) []
  | runServer {number : Nat} {who : ι} (h : s.serverTask = .spawned number who) :
    StepElsewhere s .runServer { s with serverTask := .running number who } [.invoked .start who]
  | endServer {number : Nat} {who : ι} {result : Return}
      (h : s.serverTask = .running number who) :
    StepElsewhere s (.endServer result) { s with serverTask := .ended number result }
      (.returned .start who :: s.waitingStarts.map .woken)
  | hear {signal : Signal} :
    StepElsewhere s (.hear signal)
      { s with
        heard := if s.roster.initialized && s.settings.signals.list.contains signal
          then s.heard ++ [signal] else s.heard } []
  | startAdmitted {call : Nat} {listening : Except String Unit} {server : ι} {roster : Roster ι}
      (h : s.startPhase? call = some .entering)
      (haccept : s.roster.admitStart s.settings.signals listening = .ok (server, roster)) :
    StepElsewhere s (.enterStart call listening) ({ s with roster }.setStart call (.admitted server)) []
  | launched {call : Nat} {server : ι} {name : String}
      (h : s.startPhase? call = some (.announced server name)) :
    StepElsewhere s (.launch call)
      ({ s with
          serverTask := .spawned s.taskCount server
          taskCount := s.taskCount + 1 }.setStart call (.waiting name false))
      [.spawned .server]
  | startMoved {call : Nat} {p q : StartPhase ι} {a : Action ι} {shown : List (Effect ι)}
      (h : s.startPhase? call = some p) (hmove : StartMove s call p a shown q) :
    StepElsewhere s a (s.setStart call q) shown
  | startEnded {call : Nat} {p : StartPhase ι} {a : Action ι} {shown : List (Effect ι)}
      {o : Outcome} (h : s.startPhase? call = some p) (hend : StartEnd s call p a shown o) :
    StepElsewhere s a (s.setCall call (.ended o)) (shown ++ [.finished call o])
  | statusEntered {call : Nat} (h : s.statusPhase? call = some .entering) :
    StepElsewhere s (.enterStatus call)
      ({ s with taskCount := s.taskCount + (s.newTasks s.roster.participants).length }.setStatus
        call (.probing (s.newTasks s.roster.participants) {} {}))
      (spawnEffects call (s.newTasks s.roster.participants))
  | statusMoved {call : Nat} {p q : StatusPhase ι} {a : Action ι} {shown : List (Effect ι)}
      (h : s.statusPhase? call = some p) (hmove : StatusMove call p a shown q) :
    StepElsewhere s a (s.setStatus call q) shown
  | statusEnded {call : Nat} {p : StatusPhase ι} {a : Action ι} {shown : List (Effect ι)}
      {o : Outcome} (h : s.statusPhase? call = some p) (hend : StatusEnd call p a shown o) :
    StepElsewhere s a (s.setCall call (.ended o)) (shown ++ [.finished call o])

/-- The steps of a system. -/
inductive Step (s : System ι) : Action ι → System ι → List (Effect ι) → Prop where
  | elsewhere {a : Action ι} {t : System ι} {shown : List (Effect ι)}
      (h : StepElsewhere s a t shown) : Step s a t shown
  | approached {call : Nat} (h : s.stopPhase? call = some .arriving) :
    Step s (.approach call)
      ({ s with turnstile := s.turnstile.enter call }.setStop call
        (if s.turnstile.holder.isNone then .entering else .queued)) []
  | stopMoved {call : Nat} {p q : StopPhase ι} {a : Action ι} {shown : List (Effect ι)}
      (h : s.stopPhase? call = some p) (hmove : StopMove s call p a shown q) :
    Step s a
      ({ s with
          roster := p.rosterAfter s.roster
          taskCount := s.taskCount + p.toSpawn.length }.setStop call q) shown
  | stopEnded {call : Nat} {p : StopPhase ι} {a : Action ι} {shown : List (Effect ι)}
      {o : Outcome} (h : s.stopPhase? call = some p) (hend : StopEnd s call p a shown o) :
    Step s a (s.finishStop call o).1 (shown ++ (s.finishStop call o).2)

end System

end Steward
