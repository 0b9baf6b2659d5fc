import Steward.Proofs.Step

/-!
# Every Step Is One of These

The functions behind `System.act`, opened once.

Each of them looks up the phase of a call, and some look at a task, a tray or
the roster as well. Where the lookups agree with the action the result is one of
the steps of `Steward.Proofs.Step`, and where they do not there is no result.
The lemmas follow the functions match by match; `step_of_act` puts them together.

## Theorems

* `step_of_act`: Every step of a system is a `Step`.
-/

namespace Steward.System

variable {ι : Type}

variable {s t : System ι} {effects : List (Effect ι)}

theorem length_newTasks (s : System ι) (who : List ι) : (s.newTasks who).length = who.length := by
  rw [newTasks, List.length_map, List.length_zipIdx]

theorem finished_of_all {tasks : List (Task ι)} (h : tasks.all (·.state = .finished) = true) :
    ∀ task ∈ tasks, task.state = .finished := by
  intro task htask
  have hfinished := List.all_eq_true.mp h task htask
  rwa [decide_eq_true_eq] at hfinished

/-- A step is told by its result, however the pair of system and effects was
    come by. -/
theorem step_of_eq {a : Action ι} {result : System ι × List (Effect ι)}
    (h : some result = some (t, effects)) (hstep : Step s a result.1 result.2) :
    Step s a t effects := by
  rw [Option.some.injEq] at h
  rwa [h] at hstep

theorem step_of_announceRegistered {call : Nat}
    (h : s.announceRegistered call = some (t, effects)) :
    Step s (.announceRegistered call) t effects := by
  unfold announceRegistered at h
  split at h
  · rename_i notice hp
    cases h
    exact .elsewhere (.announceRegistered hp)
  · cases h

theorem step_of_enterStart {call : Nat} {listening : Except String Unit}
    (h : s.enterStart call listening = some (t, effects)) :
    Step s (.enterStart call listening) t effects := by
  unfold enterStart at h
  split at h
  · rename_i hp
    cases haccept : s.roster.admitStart s.settings.signals listening with
    | ok accepted =>
        rw [haccept] at h
        cases h
        exact .elsewhere (.startAdmitted hp haccept)
    | error refusal =>
        rw [haccept] at h
        -- A refusal is logged only if the listeners could not be set up, and
        -- ends the call in any case.
        cases refusal with
        | notListening e => cases h; exact .elsewhere (.startEnded hp (.refused haccept))
        | _ => cases h; exact .elsewhere (.startEnded hp (.refused haccept))
  · cases h

theorem step_of_nameForStart {call : Nat} {answer : Attempt String}
    (h : s.nameForStart call answer = some (t, effects)) :
    Step s (.nameForStart call answer) t effects := by
  unfold nameForStart at h
  split at h
  · rename_i server hp
    cases answer with
    | ok name => cases h; exact .elsewhere (.startMoved hp .name)
    | error p => cases h; exact .elsewhere (.startEnded hp .nameless)
  · cases h

theorem step_of_announceStart {call : Nat} (h : s.announceStart call = some (t, effects)) :
    Step s (.announceStart call) t effects := by
  unfold announceStart at h
  split at h
  · rename_i server name hp
    cases h
    exact .elsewhere (.startMoved hp .announce)
  · cases h

theorem step_of_launch {call : Nat} (h : s.launch call = some (t, effects)) :
    Step s (.launch call) t effects := by
  unfold launch at h
  split at h
  · rename_i server name hp
    cases h
    exact .elsewhere (.launched hp)
  · cases h

theorem step_of_runServer (h : s.runServer = some (t, effects)) :
    Step s .runServer t effects := by
  unfold runServer at h
  split at h
  · rename_i number who htask
    cases h
    exact .elsewhere (.runServer htask)
  · cases h

theorem step_of_endServer {result : Return} (h : s.endServer result = some (t, effects)) :
    Step s (.endServer result) t effects := by
  unfold endServer at h
  split at h
  · rename_i number who htask
    cases h
    exact .elsewhere (.endServer htask)
  · cases h

theorem step_of_hear {signal : Signal} (h : s.hear signal = some (t, effects)) :
    Step s (.hear signal) t effects := by
  -- The system after it is left open until it is known whether the service listens.
  have hstep : StepElsewhere s (.hear signal) _ [] := .hear
  unfold hear at h
  split at h
  · rename_i hlistens
    rw [if_pos hlistens] at hstep
    cases h
    exact .elsewhere hstep
  · rename_i hlistens
    rw [if_neg hlistens] at hstep
    cases h
    exact .elsewhere hstep

theorem step_of_heed {call : Nat} (h : s.heed call = some (t, effects)) :
    Step s (.heed call) t effects := by
  unfold heed at h
  split at h
  · rename_i hp hfirst
    cases h
    exact .elsewhere (.startEnded hp (.heeded hfirst))
  · cases h

theorem step_of_joinServer {call : Nat} (h : s.joinServer call = some (t, effects)) :
    Step s (.joinServer call) t effects := by
  unfold joinServer at h
  split at h
  · rename_i name number result hp htask
    cases hleft : ServerTask.leftBehind number result with
    | ok _ =>
        rw [hleft] at h
        cases h
        -- Only a server that returned without an error leaves nothing behind.
        have hresult : result = .ok (.ok ()) := by
          rcases result with p | result
          · exact absurd hleft (by simp only [ServerTask.leftBehind, reduceCtorEq,
              not_false_eq_true])
          · exact congrArg Except.ok hleft
        exact .elsewhere (.startMoved hp (.exited (hresult ▸ htask)))
    | error cause =>
        rw [hleft] at h
        cases h
        exact .elsewhere (.startEnded hp (.failed htask hleft))
  · cases h

theorem step_of_approach {call : Nat} (h : s.approach call = some (t, effects)) :
    Step s (.approach call) t effects := by
  unfold approach at h
  split at h
  · rename_i hp
    cases h
    exact .approached hp
  · cases h

theorem step_of_enterStop {call : Nat} (h : s.enterStop call = some (t, effects)) :
    Step s (.enterStop call) t effects := by
  unfold enterStop at h
  split at h
  · rename_i hp
    cases haccept : s.roster.admitStop with
    | ok participants =>
        rw [haccept] at h
        cases h
        exact .stopMoved hp (.accept haccept)
    | error refusal =>
        rw [haccept] at h
        exact step_of_eq h (.stopEnded hp (.refused haccept))
  · cases h

theorem step_of_announceStop {call : Nat} (h : s.announceStop call = some (t, effects)) :
    Step s (.announceStop call) t effects := by
  unfold announceStop at h
  split at h
  · rename_i server deps hp
    cases h
    exact .stopMoved hp .announce
  · cases h

theorem step_of_nameForStop {call : Nat} {answer : Attempt String}
    (h : s.nameForStop call answer = some (t, effects)) :
    Step s (.nameForStop call answer) t effects := by
  unfold nameForStop at h
  split at h
  · rename_i deps hp
    cases h
    exact .stopMoved hp .pass
  · rename_i server deps hp
    cases answer with
    | ok name => cases h; exact .stopMoved hp .ask
    | error p => exact step_of_eq h (.stopEnded hp .nameless)
  · cases h

theorem step_of_endDraining {call : Nat} {result : Return}
    (h : s.endDraining call result = some (t, effects)) :
    Step s (.endDraining call result) t effects := by
  unfold endDraining at h
  split at h
  · rename_i server name deps hp
    cases h
    exact .stopMoved hp .drained
  · cases h

theorem step_of_reportServer {call : Nat} (h : s.reportServer call = some (t, effects)) :
    Step s (.reportServer call) t effects := by
  unfold reportServer at h
  split at h
  · rename_i name result deps hp
    cases h
    exact .stopMoved hp .report
  · cases h

theorem step_of_spawnCloses {call : Nat} (h : s.spawnCloses call = some (t, effects)) :
    Step s (.spawnCloses call) t effects := by
  simp only [spawnCloses, length_newTasks] at h
  split at h
  · rename_i deps causes hp
    cases h
    exact .stopMoved hp .spawn
  · cases h

theorem step_of_runClose {call place : Nat} {answer : Attempt String}
    (h : s.runClose call place answer = some (t, effects)) :
    Step s (.runClose call place answer) t effects := by
  unfold runClose at h
  split at h
  · rename_i tasks tray causes hp
    split at h
    · rename_i number who htask
      cases answer with
      | ok name => cases h; exact .stopMoved hp (.close htask)
      | error p => cases h; exact .stopMoved hp (.died htask)
    · cases h
  · cases h

theorem step_of_endClose {call place : Nat} {result : Return}
    (h : s.endClose call place result = some (t, effects)) :
    Step s (.endClose call place result) t effects := by
  unfold endClose at h
  split at h
  · rename_i tasks tray causes hp
    split at h
    · rename_i number who name htask
      cases h
      exact .stopMoved hp (.closed htask)
    · cases h
  · cases h

theorem step_of_joinClose {call : Nat} (h : s.joinClose call = some (t, effects)) :
    Step s (.joinClose call) t effects := by
  unfold joinClose at h
  split at h
  · rename_i tasks tray causes hp
    split at h
    · rename_i name result rest htake
      cases h
      exact .stopMoved hp (.take htake)
    · rename_i cause rest htake
      cases h
      exact .stopMoved hp (.take htake)
    · cases h
  · cases h

theorem step_of_concludeStop {call : Nat} (h : s.concludeStop call = some (t, effects)) :
    Step s (.concludeStop call) t effects := by
  unfold concludeStop at h
  split at h
  · rename_i tasks tray causes hp
    by_cases hended : tray.isEmpty && tasks.all (·.state = .finished)
    · rw [if_pos hended] at h
      rw [Bool.and_eq_true] at hended
      have htasks := finished_of_all hended.2
      -- Without a cause the stop goes on, otherwise it ends here.
      cases causes with
      | nil => cases h; exact .stopMoved hp (.succeed hended.1 htasks)
      | cons cause rest =>
          cases h
          exact .stopEnded hp (.failed hended.1 htasks (List.cons_ne_nil cause rest))
    · rw [if_neg hended] at h
      cases h
  · cases h

theorem step_of_markStopped {call : Nat} (h : s.markStopped call = some (t, effects)) :
    Step s (.markStopped call) t effects := by
  unfold markStopped at h
  split at h
  · rename_i hp
    cases h
    exact .stopMoved hp .mark
  · cases h

theorem step_of_announceStopped {call : Nat} (h : s.announceStopped call = some (t, effects)) :
    Step s (.announceStopped call) t effects := by
  unfold announceStopped at h
  split at h
  · rename_i hp
    cases h
    exact .stopEnded hp .done
  · cases h

theorem step_of_enterStatus {call : Nat} (h : s.enterStatus call = some (t, effects)) :
    Step s (.enterStatus call) t effects := by
  unfold enterStatus at h
  split at h
  · rename_i hp
    cases h
    exact .elsewhere (.statusEntered hp)
  · cases h

theorem step_of_runProbe {call place : Nat} {answer : Attempt String}
    (h : s.runProbe call place answer = some (t, effects)) :
    Step s (.runProbe call place answer) t effects := by
  unfold runProbe at h
  split at h
  · rename_i tasks tray tally hp
    split at h
    · rename_i number who htask
      cases answer with
      | ok name => cases h; exact .elsewhere (.statusMoved hp (.ask htask))
      | error p => cases h; exact .elsewhere (.statusMoved hp (.died htask))
    · cases h
  · cases h

theorem step_of_endProbe {call place : Nat} {answer : Attempt Health}
    (h : s.endProbe call place answer = some (t, effects)) :
    Step s (.endProbe call place answer) t effects := by
  unfold endProbe at h
  split at h
  · rename_i tasks tray tally hp
    split at h
    · rename_i number who name htask
      cases h
      exact .elsewhere (.statusMoved hp (.answered htask))
    · cases h
  · cases h

theorem step_of_joinProbe {call : Nat} (h : s.joinProbe call = some (t, effects)) :
    Step s (.joinProbe call) t effects := by
  unfold joinProbe at h
  split at h
  · rename_i tasks tray tally hp
    rw [Option.map_eq_some_iff] at h
    rcases h with ⟨⟨health, rest⟩, htake, h⟩
    cases h
    exact .elsewhere (.statusMoved hp (.take htake))
  · cases h

theorem step_of_concludeStatus {call : Nat} (h : s.concludeStatus call = some (t, effects)) :
    Step s (.concludeStatus call) t effects := by
  unfold concludeStatus at h
  split at h
  · rename_i tasks tray tally hp
    by_cases hended : tray.isEmpty && tasks.all (·.state = .finished)
    · rw [if_pos hended] at h
      rw [Bool.and_eq_true] at hended
      have htasks := finished_of_all hended.2
      cases h
      exact .elsewhere (.statusEnded hp (.concluded hended.1 htasks))
    · rw [if_neg hended] at h
      cases h
  · cases h

theorem step_of_setAside {call : Nat} (h : s.setAside call = some (t, effects)) :
    Step s (.setAside call) t effects := by
  unfold setAside at h
  split at h
  · rename_i tasks tray causes hp
    rw [Option.map_eq_some_iff] at h
    rcases h with ⟨rest, hrest, h⟩
    cases h
    exact .stopMoved (stopPhase?_eq_some.mpr hp) (.setAside hrest)
  · rename_i tasks tray tally hp
    rw [Option.map_eq_some_iff] at h
    rcases h with ⟨rest, hrest, h⟩
    cases h
    exact .elsewhere (.statusMoved (statusPhase?_eq_some.mpr hp) (.setAside hrest))
  · cases h

theorem step_of_bringBack {call : Nat} (h : s.bringBack call = some (t, effects)) :
    Step s (.bringBack call) t effects := by
  unfold bringBack at h
  split at h
  · rename_i tasks tray causes hp
    rw [Option.map_eq_some_iff] at h
    rcases h with ⟨rest, hrest, h⟩
    cases h
    exact .stopMoved (stopPhase?_eq_some.mpr hp) (.bringBack hrest)
  · rename_i tasks tray tally hp
    rw [Option.map_eq_some_iff] at h
    rcases h with ⟨rest, hrest, h⟩
    cases h
    exact .elsewhere (.statusMoved (statusPhase?_eq_some.mpr hp) (.bringBack hrest))
  · cases h

/-- Every step is one of these. -/
theorem step_of_act {a : Action ι} (h : s.act a = some (t, effects)) : Step s a t effects := by
  cases a with
  -- Registrations, which are told at once, and the calls that begin.
  | serve ask offered => exact step_of_eq h (.elsewhere .serve)
  | attach ask offered => exact step_of_eq h (.elsewhere .attach)
  | announceRegistered call => exact step_of_announceRegistered h
  | begin kind => cases h; exact .elsewhere .begin
  -- Starts, and the task of the server they wait for.
  | enterStart call listening => exact step_of_enterStart h
  | nameForStart call answer => exact step_of_nameForStart h
  | announceStart call => exact step_of_announceStart h
  | launch call => exact step_of_launch h
  | runServer => exact step_of_runServer h
  | endServer result => exact step_of_endServer h
  | hear signal => exact step_of_hear h
  | heed call => exact step_of_heed h
  | joinServer call => exact step_of_joinServer h
  -- Stops, from the turnstile to the last announcement.
  | approach call => exact step_of_approach h
  | enterStop call => exact step_of_enterStop h
  | announceStop call => exact step_of_announceStop h
  | nameForStop call answer => exact step_of_nameForStop h
  | endDraining call result => exact step_of_endDraining h
  | reportServer call => exact step_of_reportServer h
  | spawnCloses call => exact step_of_spawnCloses h
  | runClose call place answer => exact step_of_runClose h
  | endClose call place result => exact step_of_endClose h
  | joinClose call => exact step_of_joinClose h
  | concludeStop call => exact step_of_concludeStop h
  | markStopped call => exact step_of_markStopped h
  | announceStopped call => exact step_of_announceStopped h
  -- Questions about the health.
  | enterStatus call => exact step_of_enterStatus h
  | runProbe call place answer => exact step_of_runProbe h
  | endProbe call place answer => exact step_of_endProbe h
  | joinProbe call => exact step_of_joinProbe h
  | concludeStatus call => exact step_of_concludeStatus h
  -- What a scheduler does with the tasks a call waits for.
  | setAside call => exact step_of_setAside h
  | bringBack call => exact step_of_bringBack h

end Steward.System
