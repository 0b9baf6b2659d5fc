import Steward.Proofs.Step.Inversion

/-!
# What Is Described Can Happen

The steps that `Step` lists are all possible, and each is what `System.act` makes of
its action.

The inversion says that nothing happens but what is in the list. That is enough for
what is kept by every step. To say that something can happen it takes the converse,
and with both of them a step can be looked for among the descriptions, where it is a
matter of the phase of one call, rather than among functions.

## Theorems

* `act_of_step`: What is described is what the action does.
* `act_eq_some_iff`: A step is what is described and nothing else.
-/

namespace Steward.System

variable {ι : Type} {s t : System ι} {call : Nat} {a : Action ι} {effects : List (Effect ι)}
  {o : Outcome}

section Start

variable {p q : StartPhase ι}

theorem act_of_startMove (hp : s.startPhase? call = some p) (h : StartMove s call p a effects q) :
    s.act a = some (s.setStart call q, effects) := by
  cases h with
  | name => simp only [act, nameForStart, hp]
  | announce => simp only [act, announceStart, hp]
  | exited htask => simp only [act, joinServer, hp, htask, ServerTask.leftBehind]

theorem act_of_startEnd (hp : s.startPhase? call = some p) (h : StartEnd s call p a effects o) :
    s.act a = some (s.setCall call (.ended o), effects ++ [.finished call o]) := by
  cases h with
  | refused hrefused =>
      simp only [act, enterStart, hp, hrefused, finish]
      rename_i refusal
      cases refusal <;> rfl
  | nameless => simp only [act, nameForStart, hp, finish, List.nil_append]
  | heeded hfirst =>
      simp only [act, heed, hp, hfirst, finish, List.cons_append, List.nil_append]
  | failed htask hcause =>
      simp only [act, joinServer, hp, htask, hcause, finish, List.cons_append, List.nil_append]

end Start

section Status

variable {p q : StatusPhase ι}

theorem act_of_statusMove (hp : s.statusPhase? call = some p)
    (h : StatusMove call p a effects q) : s.act a = some (s.setStatus call q, effects) := by
  have hcall := statusPhase?_eq_some.mp hp
  cases h with
  | ask htask | died htask => simp only [act, runProbe, hp, htask]
  | answered htask => simp only [act, endProbe, hp, htask]
  | take htray => simp only [act, joinProbe, hp, htray, Option.map_some]
  | setAside htray => simp only [act, setAside, hcall, htray, Option.map_some]
  | bringBack htray => simp only [act, bringBack, hcall, htray, Option.map_some]

theorem all_of_finished {tasks : List (Task ι)} (h : ∀ task ∈ tasks, task.state = .finished) :
    tasks.all (·.state = .finished) = true :=
  List.all_eq_true.mpr fun task htask => decide_eq_true (h task htask)

theorem act_of_statusEnd (hp : s.statusPhase? call = some p)
    (h : StatusEnd call p a effects o) :
    s.act a = some (s.setCall call (.ended o), effects ++ [.finished call o]) := by
  cases h with
  | concluded htray htasks =>
      simp only [act, concludeStatus, hp, htray, all_of_finished htasks, Bool.and_self, if_true,
        finish, List.cons_append, List.nil_append]

end Status

section Stop

variable {p q : StopPhase ι}

theorem act_of_stopMove (hp : s.stopPhase? call = some p) (h : StopMove s call p a effects q) :
    s.act a = some ({ s with
      roster := p.rosterAfter s.roster
      taskCount := s.taskCount + p.toSpawn.length }.setStop call q, effects) := by
  have hcall := stopPhase?_eq_some.mp hp
  -- What a move needs is the guard the action looks at, so each action computes.
  cases h with
  | accept haccept => simp only [act, enterStop, hp, haccept]; rfl
  | announce => simp only [act, announceStop, hp]; rfl
  | pass | ask => simp only [act, nameForStop, hp]; rfl
  | drained => simp only [act, endDraining, hp]; rfl
  | report => simp only [act, reportServer, hp]; rfl
  | spawn =>
      simp only [act, spawnCloses, hp, newTasks, List.length_map, List.length_zipIdx]
      rfl
  | close htask | died htask => simp only [act, runClose, hp, htask]; rfl
  | closed htask => simp only [act, endClose, hp, htask]; rfl
  | take htray =>
      rename_i closing
      cases closing <;> (simp only [act, joinClose, hp, htray]; rfl)
  -- These two are for stops and questions alike, and look at the call itself.
  | setAside htray => simp only [act, setAside, hcall, htray, Option.map_some]; rfl
  | bringBack htray => simp only [act, bringBack, hcall, htray, Option.map_some]; rfl
  | succeed htray htasks =>
      simp only [act, concludeStop, hp, htray, all_of_finished htasks, Bool.and_self, if_true,
        List.isEmpty_nil]
      rfl
  | mark => simp only [act, markStopped, hp]; rfl

theorem act_of_stopEnd (hp : s.stopPhase? call = some p) (h : StopEnd s call p a effects o) :
    s.act a = some ((s.finishStop call o).1, effects ++ (s.finishStop call o).2) := by
  cases h with
  | refused hrefused => simp only [act, enterStop, hp, hrefused, List.nil_append]
  | nameless => simp only [act, nameForStop, hp, List.nil_append]
  | failed htray htasks hcauses =>
      simp only [act, concludeStop, hp, htray, all_of_finished htasks, Bool.and_self, if_true,
        List.isEmpty_eq_false_iff.mpr hcauses, Bool.false_eq_true, if_false, List.cons_append,
        List.nil_append]
  | done => simp only [act, announceStopped, hp, List.cons_append, List.nil_append]

end Stop

theorem act_of_stepElsewhere (h : StepElsewhere s a t effects) : s.act a = some (t, effects) := by
  cases h with
  | serve | attach | begin => rfl
  | announceRegistered hcall => simp only [act, announceRegistered, hcall, finish]
  | runServer htask => simp only [act, runServer, htask]
  | endServer htask => simp only [act, endServer, htask]
  | hear =>
      simp only [act, hear]
      split <;> rfl
  | startAdmitted hp haccept => simp only [act, enterStart, hp, haccept]
  | launched hp => simp only [act, launch, hp]
  | startMoved hp hmove => exact act_of_startMove hp hmove
  | startEnded hp hend => exact act_of_startEnd hp hend
  | statusEntered hp => simp only [act, enterStatus, hp]
  | statusMoved hp hmove => exact act_of_statusMove hp hmove
  | statusEnded hp hend => exact act_of_statusEnd hp hend

/-- What is described is what the action does. -/
theorem act_of_step (h : Step s a t effects) : s.act a = some (t, effects) := by
  cases h with
  | elsewhere h => exact act_of_stepElsewhere h
  | approached hp => simp only [act, approach, hp]
  | stopMoved hp hmove => exact act_of_stopMove hp hmove
  | stopEnded hp hend => exact act_of_stopEnd hp hend

/-- A step is what is described and nothing else. -/
theorem act_eq_some_iff : s.act a = some (t, effects) ↔ Step s a t effects :=
  ⟨step_of_act, act_of_step⟩

end Steward.System
