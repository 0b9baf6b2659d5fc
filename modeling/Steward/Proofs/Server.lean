import Steward.Proofs.Containment
import Steward.Proofs.Enrolment

/-!
# The Server and the Signals

What an observer who looks at no single call can tell of a service.

Three things in a service belong to no call: the mark that a start was accepted,
the task of the server, and the signals that have arrived. Steps of many kinds can
come between two that touch them, so they are followed from outside. `ServerView`
sorts the steps by what they do to the task, and most of them do nothing.
`Observed` is what a run tells: which signals have arrived since a start was
accepted, how often a server was asked to start and what it has returned, and how
many starts were accepted.

A service accepts one start at most. The mark is set where a start is accepted, in
one piece with the look at it, and it is never taken back, so there are as many
accepted starts as there are marks. The server is launched by the one start that
was accepted, so nobody has launched it before.

## Main definitions

* `System.admissions`, `System.invocations`: The starts that were accepted, and the
  servers that were asked to start.
* `System.arrivals`, `returnsIn`: The signals that have arrived, and what the server
  has returned.
* `ServerView`: What a step is to the server's task.
* `Observed`: A service as an observer of its run has it.

## Theorems

* `Step.serverView`: These are all the steps.
* `Step.heard_eq`: The signals that are kept are those that arrive.
* `Step.initialized_toNat`: A step accepts a start if and only if it sets the mark.
* `observed_of_run`: What an observer has is what there is.
-/

namespace Steward

variable {ι : Type}

/-- Who is asked to start, among effects. -/
def startsIn (effects : List (Effect ι)) : List ι :=
  effects.filterMap fun
    | .invoked .start who => some who
    | _ => none

/-- What the server has come to by these actions: it returned, or panicked. -/
def returnsIn (actions : List (Action ι)) : List Return :=
  actions.filterMap fun
    | .endServer result => some result
    | _ => none

namespace System

/-- The start that a step accepts. -/
def admittedNow (s : System ι) (a : Action ι) (_ : List (Effect ι)) : List Nat :=
  match a with
  | .enterStart call listening =>
    match s.roster.admitStart s.settings.signals listening with
    | .ok _ => [call]
    | .error _ => []
  | _ => []

/-- The signal that arrives in a step. Until a start is accepted the service does
    not listen, and to other signals than those of the settings it never does. -/
def arrivedNow (s : System ι) (a : Action ι) (_ : List (Effect ι)) : List Signal :=
  match a with
  | .hear signal =>
    if s.roster.initialized && s.settings.signals.list.contains signal then [signal] else []
  | _ => []

/-- The starts that are accepted in a run. -/
def admissions (s : System ι) (actions : List (Action ι)) : List Nat :=
  s.observe admittedNow actions

/-- The servers that are asked to start in a run. -/
def invocations (s : System ι) (actions : List (Action ι)) : List ι :=
  s.observe (fun _ _ effects => startsIn effects) actions

/-- The signals that arrive in a run. -/
def arrivals (s : System ι) (actions : List (Action ι)) : List Signal :=
  s.observe arrivedNow actions

end System

/-- A server's task by who was asked to start so far, and what has come of it. -/
def ServerTask.Ran (started : List ι) (returns : List Return) : ServerTask ι → Prop
  | .absent | .spawned _ _ => started = [] ∧ returns = []
  | .running _ who => started = [who] ∧ returns = []
  | .ended _ result => (∃ who, started = [who]) ∧ returns = [result]

/-- The first of the pending signals stands before all others of them in the
    settings. -/
theorem Signals.first?_eq_some_iff {signals : Signals} {pending : List Signal} {signal : Signal} :
    signals.first? pending = some signal ↔ signal ∈ pending ∧ ∃ front back,
      signals.list = front ++ signal :: back ∧ ∀ other ∈ front, other ∉ pending := by
  rw [Signals.first?, List.find?_eq_some_iff_append]
  simp only [List.contains_eq_mem, decide_eq_true_iff, Bool.not_eq_true', decide_eq_false_iff_not]

theorem Signals.isSome_first? {signals : Signals} {pending : List Signal}
    (hlisted : ∀ signal ∈ pending, signal ∈ signals.list) (hsome : pending ≠ []) :
    (signals.first? pending).isSome = true := by
  rcases List.exists_mem_of_ne_nil pending hsome with ⟨signal, hmem⟩
  rw [Signals.first?, List.find?_isSome]
  exact ⟨signal, hlisted signal hmem, List.contains_iff_mem.mpr hmem⟩

theorem returnsIn_append (first second : List (Action ι)) :
    returnsIn (first ++ second) = returnsIn first ++ returnsIn second :=
  List.filterMap_append

theorem ServerTask.Ran.length_le {task : ServerTask ι} {started : List ι} {returns : List Return}
    (h : task.Ran started returns) : started.length ≤ 1 := by
  cases task with
  | absent | spawned _ _ =>
      rw [h.1]
      exact Nat.zero_le 1
  | running _ who =>
      rw [h.1]
      exact Nat.le_refl 1
  | ended _ result =>
      rcases h.1 with ⟨who, hstarted⟩
      rw [hstarted]
      exact Nat.le_refl 1

namespace System

variable {s t u : System ι} {a : Action ι} {effects : List (Effect ι)} {settings : Settings}
  {actions : List (Action ι)}

@[simp] theorem heard_finishStop (s : System ι) (call : Nat) (o : Outcome) :
    (s.finishStop call o).1.heard = s.heard := by
  rw [finishStop_eq]

@[simp] theorem settings_finishStop (s : System ι) (call : Nat) (o : Outcome) :
    (s.finishStop call o).1.settings = s.settings := by
  rw [finishStop_eq]

section Register

variable (s : System ι) (kind : EventKind) (outcome : Registration × Roster ι)

@[simp] theorem settings_register : (s.register kind outcome).1.settings = s.settings := by
  rcases outcome with ⟨outcome, roster⟩
  cases outcome <;> rfl

@[simp] theorem heard_register : (s.register kind outcome).1.heard = s.heard := by
  rcases outcome with ⟨outcome, roster⟩
  cases outcome <;> rfl

@[simp] theorem serverTask_register : (s.register kind outcome).1.serverTask = s.serverTask := by
  rcases outcome with ⟨outcome, roster⟩
  cases outcome <;> rfl

theorem startsIn_register : startsIn (s.register kind outcome).2 = [] := by
  rcases outcome with ⟨outcome, roster⟩
  cases outcome <;> rfl

end Register

/-- What a step is to the server's task. -/
inductive ServerView (s : System ι) (a : Action ι) (t : System ι) (effects : List (Effect ι)) :
    Prop where
  | beside (htask : t.serverTask = s.serverTask) (hquiet : startsIn effects = [])
      (hreturn : returnsIn [a] = [])
  | launched {call : Nat} {server : ι} {name : String} (ha : a = .launch call)
      (hp : s.startPhase? call = some (.announced server name))
      (htask : t.serverTask = .spawned s.taskCount server) (hquiet : startsIn effects = [])
  | begun {number : Nat} {who : ι} (ha : a = .runServer)
      (hspawned : s.serverTask = .spawned number who) (htask : t.serverTask = .running number who)
      (hasked : startsIn effects = [who])
  | returned {number : Nat} {who : ι} {result : Return} (ha : a = .endServer result)
      (hrunning : s.serverTask = .running number who) (htask : t.serverTask = .ended number result)
      (hquiet : startsIn effects = [])

theorem startsIn_append (first second : List (Effect ι)) :
    startsIn (first ++ second) = startsIn first ++ startsIn second :=
  List.filterMap_append

theorem startsIn_woken (starts : List Nat) :
    startsIn (starts.map (.woken : Nat → Effect ι)) = [] := by
  rw [startsIn, List.filterMap_map, List.filterMap_eq_nil_iff]
  exact fun _ _ => rfl

theorem startsIn_finishStop (s : System ι) (call : Nat) (o : Outcome) :
    startsIn (s.finishStop call o).2 = [] :=
  filterMap_finishStop s call o fun _ => rfl

/-- These are all the steps. -/
theorem Step.serverView (h : Step s a t effects) : ServerView s a t effects := by
  cases h with
  | elsewhere h =>
      cases h with
      | serve | attach =>
          -- Three steps are about the task of the server: it is launched, it begins and it returns.
          exact .beside (serverTask_register _ _ _) (startsIn_register _ _ _) rfl
      | announceRegistered _ | begin | hear | startAdmitted _ _ => exact .beside rfl rfl rfl
      | runServer htask => exact .begun rfl htask rfl rfl
      | endServer htask => exact .returned rfl htask rfl (startsIn_woken _)
      | launched hp => exact .launched rfl hp rfl rfl
      | startMoved _ hmove => cases hmove <;> exact .beside rfl rfl rfl
      | startEnded _ hend =>
          cases hend with
          | @refused _ refusal _ => cases refusal <;> exact .beside rfl rfl rfl
          | nameless | heeded _ | failed _ _ => exact .beside rfl rfl rfl
      | statusEntered _ => exact .beside rfl (filterMap_spawnEffects (fun _ => rfl) _) rfl
      | statusMoved _ hmove => cases hmove <;> exact .beside rfl rfl rfl
      | statusEnded _ hend => cases hend; exact .beside rfl rfl rfl
  | approached _ => exact .beside rfl rfl rfl
  | stopMoved _ hmove =>
      -- A stop has the server stopped, and its task returns in a step of its own.
      cases hmove with
      | spawn => exact .beside rfl (filterMap_spawnEffects (fun _ => rfl) _) rfl
      | @take _ _ _ _ closing _ => cases closing <;> exact .beside rfl rfl rfl
      | _ => exact .beside rfl rfl rfl
  | stopEnded _ hend =>
      -- Whom a stop wakes when it ends is a stop.
      have hquiet : ∀ before : List (Effect ι), startsIn before = [] → ∀ call o,
          startsIn (before ++ (s.finishStop call o).2) = [] := by
        intro before hbefore call o
        rw [startsIn_append, hbefore, startsIn_finishStop, List.nil_append]
      cases hend <;> exact .beside (serverTask_finishStop _ _ _) (hquiet _ rfl _ _) rfl

/-- The signals that are kept are those that arrive. -/
theorem Step.heard_eq (h : Step s a t effects) :
    t.heard = s.heard ++ s.arrivedNow a effects := by
  have hsame : s.heard = s.heard ++ [] := (List.append_nil s.heard).symm
  cases h with
  | elsewhere h =>
      cases h with
      | serve | attach => exact (heard_register _ _ _).trans hsame
      | hear =>
          -- A signal that was not asked for is not heard.
          simp only [arrivedNow]
          split
          · rfl
          · exact hsame
      | startMoved _ hmove => cases hmove <;> exact hsame
      | startEnded _ hend => cases hend <;> exact hsame
      | statusMoved _ hmove => cases hmove <;> exact hsame
      | statusEnded _ hend => cases hend; exact hsame
      | _ => exact hsame
  | approached _ => exact hsame
  | stopMoved _ hmove => cases hmove <;> exact hsame
  | stopEnded _ hend => cases hend <;> exact (heard_finishStop _ _ _).trans hsame

/-- The settings are never changed. -/
theorem Step.settings_eq (h : Step s a t effects) : t.settings = s.settings := by
  cases h with
  | elsewhere h =>
      cases h with
      | serve | attach => exact settings_register _ _ _
      | _ => rfl
  | approached _ | stopMoved _ _ => rfl
  | stopEnded _ _ => exact settings_finishStop _ _ _

/-- A step accepts a start if and only if it sets the mark. -/
theorem Step.initialized_toNat (h : Step s a t effects) :
    t.roster.initialized.toNat =
      s.roster.initialized.toNat + (s.admittedNow a effects).length := by
  rw [h.roster_eq]
  cases a with
  | serve ask offered =>
      rcases s.roster.serve_cases ask offered with
        ⟨-, hafter⟩ | ⟨who, name, -, -, -, -, hafter⟩ <;> rw [Roster.after, hafter] <;> rfl
  | attach ask offered =>
      rcases s.roster.attach_cases ask offered with
        ⟨-, hafter⟩ | ⟨who, name, -, -, -, hafter⟩ <;> rw [Roster.after, hafter] <;> rfl
  | enterStart call listening =>
      cases haccept : s.roster.admitStart s.settings.signals listening with
      | error refusal => simp only [Roster.after, admittedNow, haccept, List.length_nil, Nat.add_zero]
      | ok accepted =>
          -- The mark was not set before, or the start would have been refused.
          rcases Roster.of_admitStart haccept with ⟨hinit, -, hafter⟩
          simp only [Roster.after, admittedNow, haccept, hafter, hinit, List.length_singleton]
          rfl
  | _ => rfl

/-- A service as an observer of its run has it. -/
structure Observed (settings : Settings) (actions : List (Action ι)) (u : System ι) : Prop where
  settings_eq : u.settings = settings
  heard_eq : u.heard = (System.initial settings).arrivals actions
  listed : ∀ signal ∈ u.heard, signal ∈ settings.signals.list
  ran : u.serverTask.Ran ((System.initial settings).invocations actions) (returnsIn actions)
  admitted : ((System.initial settings).admissions actions).length = u.roster.initialized.toNat

/-- The server's task after a step by what was seen of it. It is launched only once,
    since every start that launches it is the one that was accepted. -/
theorem ServerView.ran {lost : Nat} {started : List ι} {returns : List Return}
    (h : ServerView s a t effects) (haccount : s.Accounted lost)
    (hran : s.serverTask.Ran started returns) :
    t.serverTask.Ran (started ++ startsIn effects) (returns ++ returnsIn [a]) := by
  cases h with
  | beside htask hquiet hreturn =>
      rw [htask, hquiet, hreturn, List.append_nil, List.append_nil]
      exact hran
  | launched ha hp htask hquiet =>
      subst ha
      -- A start is about to launch the server, so nobody has done so before.
      have hpos : 0 < s.launching :=
        List.countP_pos_iff.mpr ⟨_, List.mem_of_getElem? (startPhase?_eq_some.mp hp), rfl⟩
      have hle : s.roster.initialized.toNat ≤ 1 := Bool.toNat_le _
      have hnone : s.serverTask.isLaunched.toNat = 0 := by
        unfold Accounted at haccount
        omega
      cases hserver : s.serverTask with
      | absent =>
          rw [hserver] at hran
          rw [htask, hquiet, List.append_nil]
          exact ⟨hran.1, by rw [hran.2]; rfl⟩
      | spawned _ _ | running _ _ | ended _ _ =>
          rw [hserver] at hnone
          cases hnone
  | begun ha hspawned htask hasked =>
      -- A task that has not begun has asked nobody.
      subst ha
      rw [hspawned] at hran
      rw [htask, hasked, hran.1, hran.2]
      exact ⟨rfl, rfl⟩
  | returned ha hrunning htask hquiet =>
      subst ha
      rw [hrunning] at hran
      rw [htask, hquiet, hran.1, hran.2]
      exact ⟨⟨_, rfl⟩, rfl⟩

theorem mem_arrivedNow {signal : Signal} (h : signal ∈ s.arrivedNow a effects) :
    signal ∈ s.settings.signals.list := by
  unfold arrivedNow at h
  split at h
  · split at h
    · rename_i heard hlistens
      rw [Bool.and_eq_true, List.contains_iff_mem] at hlistens
      rw [List.mem_singleton.mp h]
      exact hlistens.2
    · cases h
  · cases h

/-- What an observer has is what there is. -/
theorem observed_of_run (h : (System.initial settings).run actions = some (u, effects)) :
    Observed settings actions u := by
  have hnobody : (System.initial settings : System ι).serverTask.Ran [] [] := ⟨rfl, rfl⟩
  -- Nothing was launched and nothing has arrived at first.
  have hunheard : ∀ signal ∈ (System.initial settings : System ι).heard,
      signal ∈ settings.signals.list := fun _ => nofun
  refine run_induction (fun actions u => Observed settings actions u) ⟨rfl, rfl, hunheard,
    hnobody, rfl⟩ ?_ h
  intro before u shown a v now _ hrun hu hact
  have hstep := step_of_act hact
  refine ⟨hstep.settings_eq.trans hu.settings_eq, ?_, ?_, ?_, ?_⟩
  · rw [arrivals, observe_append_singleton _ hrun hact, hstep.heard_eq, hu.heard_eq]
    rfl
  · -- Whatever arrives is one of the signals in the settings.
    rw [hstep.heard_eq]
    refine List.forall_mem_append.mpr ⟨hu.listed, fun signal hmem => ?_⟩
    rw [← hu.settings_eq]
    exact mem_arrivedNow hmem
  · rw [invocations, observe_append_singleton _ hrun hact, returnsIn_append]
    exact hstep.serverView.ran (accounted_of_run hrun) hu.ran
  · rw [admissions, observe_append_singleton _ hrun hact, List.length_append,
      hstep.initialized_toNat, ← hu.admitted]
    rfl

end System

end Steward
