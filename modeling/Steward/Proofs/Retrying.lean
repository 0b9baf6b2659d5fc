import Steward.Proofs.Enrolment
import Steward.Proofs.Rounds

/-!
# Trying Again

Stopping a service again and again, until nobody fails any more.

A stop that meets a failure leaves the service open, so another one can be made, and it
does everything anew: it stops the server and closes all dependencies, those included that
were closed before. Whoever was told to fail so many times has used up one failure more
with it. So as many stops fail as the most stubborn participant makes fail, the next one
stops the service, and whatever comes later finds it stopped.

Stops come from everywhere and may wait for each other, and a number has to be found for
each. It is given at the turnstile. A stop that is accepted keeps all others out until it
ends, so what the stand-ins have been through is told by the number of stops that have
passed, and by how far the one has come that is accepted. `InRound` says this phase by
phase, and `Retrying` ties it to the numbers. Nothing of it has to be known of the order
in which dependencies are closed, nor of what else happens meanwhile.

## Main definitions

* `Verdict`: How a stop ends that passes after so many others.
* `InRound`: How far a stop has brought the stand-ins.
* `Retrying`: Every stop but the last one is over.
* `Retried`: What has become of the stops of a service.

## Theorems

* `System.Step.quiet`: Nobody is stopped or closed unless the service is open.
* `System.IsIdle.step`: Nor is a stop accepted.
* `InRound.move`: A stop goes on in its round.
* `InRound.concluded`: At its end it has heard all there is to be heard.
* `Retrying.step`: A step keeps the rounds in order.
* `stops_are_retried`: Stops fail as often as anybody does, and then one succeeds.
-/

namespace Steward

variable {ι : Type}

namespace System

variable {s t : System ι} {call : Nat} {a : Action ι} {effects : List (Effect ι)}
  {p q : StopPhase ι} {o : Outcome}

theorem finishStop_quiet (s : System ι) (call : Nat) (o : Outcome) :
    ∀ e ∈ (s.finishStop call o).2, e.isStopWork = false := by
  rw [finishStop_eq]
  intro e he
  rcases List.mem_append.mp he with he | he
  · rcases List.mem_map.mp he with ⟨next, -, rfl⟩
    rfl
  · rw [List.mem_singleton.mp he]
    rfl

/-- Nobody is stopped or closed in the step in which a stop ends. -/
theorem StopEnd.quiet (h : StopEnd s call p a effects o) :
    ∀ e ∈ effects ++ (s.finishStop call o).2, e.isStopWork = false := by
  refine List.forall_mem_append.mpr ⟨?_, finishStop_quiet s call o⟩
  cases h with
  | refused _ | nameless => exact fun e he => absurd he List.not_mem_nil
  | failed _ _ _ | done => exact List.forall_mem_singleton.mpr rfl

/-- Nobody is stopped or closed before the service is started or after it is stopped. -/
theorem Step.quiet (hs : s.Sound) (h : Step s a t effects) (hclosed : ¬s.roster.IsOpen) :
    ∀ e ∈ effects, e.isStopWork = false := by
  cases h with
  | elsewhere h => exact h.apart.silent
  | approached _ => exact fun e he => absurd he List.not_mem_nil
  | stopMoved hp hmove => exact absurd (hmove.isOpen (hs _ _ hp)) hclosed
  | stopEnded _ hend => exact hend.quiet

/-- Only a stop marks the service as stopped, and not before it is initialized. -/
theorem Step.stopped_eq_false (hs : s.Sound) (h : Step s a t effects)
    (hinit : s.roster.initialized = false) (hopen : s.roster.stopped = false) :
    t.roster.stopped = false := by
  rw [h.roster_eq]
  cases a with
  | serve ask offered =>
      rcases s.roster.serve_cases ask offered with ⟨-, hafter⟩ | ⟨who, name, -, -, -, -, hafter⟩ <;>
        rw [Roster.after, hafter] <;> exact hopen
  | attach ask offered =>
      rcases s.roster.attach_cases ask offered with ⟨-, hafter⟩ | ⟨who, name, -, -, -, hafter⟩ <;>
        rw [Roster.after, hafter] <;> exact hopen
  | enterStart call listening =>
      cases haccept : s.roster.admitStart s.settings.signals listening with
      | error refusal =>
          simp only [Roster.after, haccept]
          exact hopen
      | ok accepted =>
          simp only [Roster.after, haccept]
          rw [(Roster.of_admitStart haccept).2.2]
          exact hopen
  | markStopped call =>
      -- Only the mark would stop the service, and a stop that can set it was accepted
      -- by one that is initialized.
      have hsucceeded : s.roster.IsOpen := hs call _ h.succeeded
      rw [hsucceeded.1] at hinit
      cases hinit
  | _ => exact hopen

/-- No stop is accepted that has not ended. -/
def IsIdle (s : System ι) : Prop :=
  ∀ call p, s.stopPhase? call = some p → ¬p.isAccepted = true

theorem StopMove.isAccepted (h : StopMove s call p a effects q) : q.isAccepted = true := by
  cases h <;> rfl

namespace IsIdle

theorem of_uninitialized (hs : s.Sound) (hinit : s.roster.initialized = false) : s.IsIdle := by
  intro call p hp haccepted
  rw [(hs call p hp).initialized haccepted] at hinit
  cases hinit

/-- There is one place for a stop that has passed, and who is in it is not accepted. -/
theorem of_entering (hg : s.Gated) (hp : s.stopPhase? call = some .entering) : s.IsIdle := by
  intro i q hq haccepted
  have hsame := hg.eq_of_isInside hp rfl hq (StopPhase.isInside_of_isAccepted haccepted)
  rw [hsame, hp, Option.some.injEq] at hq
  rw [← hq] at haccepted
  cases haccepted

/-- With the end of a stop the place is given to one that is not accepted yet. -/
theorem finishStop (hg : s.Gated) (hp : s.stopPhase? call = some p) (hin : p.isInside = true)
    (o : Outcome) : (s.finishStop call o).1.IsIdle := by
  intro i q hq haccepted
  rw [hg.stopPhase?_finishStop hp hin] at hq
  split at hq
  · cases hq
  · rename_i hne
    split at hq
    · rw [← Option.some.inj hq] at haccepted
      cases haccepted
    · have hinside := StopPhase.isInside_of_isAccepted haccepted
      exact hne (hg.eq_of_isInside hp hin hq hinside)

/-- No stop is accepted while the service is not started, or is stopped. -/
theorem step (hidle : s.IsIdle) (hg : s.Gated) (hs : s.Sound) (h : Step s a t effects)
    (hclosed : ¬s.roster.IsOpen) : t.IsIdle := by
  intro i q hq haccepted
  cases h with
  | elsewhere h =>
      -- A stop that comes up has not passed the turnstile.
      rcases h.apart.comes i q hq with hq | ⟨rfl, -⟩
      · exact hidle i q hq haccepted
      · cases haccepted
  | approached hp =>
      rw [stopPhase?_setStop hp] at hq
      split at hq
      · rw [← Option.some.inj hq] at haccepted
        split at haccepted <;> cases haccepted
      · exact hidle i q hq haccepted
  -- A stop that moves finds the service open.
  | stopMoved hp hmove => exact absurd (hmove.isOpen (hs _ _ hp)) hclosed
  | stopEnded hp hend => exact IsIdle.finishStop hg hp hend.isInside _ i q hq haccepted

end IsIdle

end System

namespace Rehearsal

section Verdict

variable (cast : ι → StandIn) (server : ι) (deps : List ι) (k : Nat)

/-- How a stop ends that passes after `k` others. -/
structure Verdict (o : Outcome) : Prop where
  /-- It fails as long as there is one that fails, with a cause for each that does. -/
  fails : k < mostFailures cast server deps → ∃ causes,
    o = .failed (stopFailure.addCauses causes) ∧
    causes.Perm (complaints cast server deps k) ∧
    causes.length = (if k < (cast server).stopFailures then 1 else 0) +
      deps.countP fun d => k < (cast d).closeFailures
  /-- The next one stops the service. -/
  succeeds : k = mostFailures cast server deps → o = .done
  /-- All others come too late. -/
  late : mostFailures cast server deps < k → o = .failed StopRefusal.stopped.failure

variable {cast server deps k}

theorem Verdict.of_failed {causes : List Cause} (hk : k ≤ mostFailures cast server deps)
    (hcauses : causes.Perm (complaints cast server deps k)) (hsome : causes ≠ []) :
    Verdict cast server deps k (.failed (stopFailure.addCauses causes)) where
  fails _ := ⟨causes, rfl, hcauses, hcauses.length_eq.trans (length_complaints cast server deps k)⟩
  succeeds hmost := by
    -- After so many there is nothing to be heard.
    rw [(complaints_eq_nil_iff cast server deps k).mpr (Nat.le_of_eq hmost.symm)] at hcauses
    exact absurd hcauses.eq_nil hsome
  late hlate := absurd hlate (Nat.not_lt.mpr hk)

theorem Verdict.of_done (hk : k = mostFailures cast server deps) :
    Verdict cast server deps k .done where
  fails hfails := absurd hfails (Nat.not_lt.mpr (Nat.le_of_eq hk.symm))
  succeeds _ := rfl
  late hlate := absurd hlate (Nat.not_lt.mpr (Nat.le_of_eq hk))

theorem Verdict.of_late (hk : mostFailures cast server deps < k) :
    Verdict cast server deps k (.failed StopRefusal.stopped.failure) where
  fails hfails := absurd hfails (Nat.lt_asymm hk)
  succeeds hmost := absurd hmost (Nat.ne_of_gt hk)
  late _ := rfl

end Verdict

variable [DecidableEq ι] {cast now : ι → StandIn} {server : ι} {deps : List ι} {k : Nat}
  {t u : Trial ι} {call : Nat} {a : Action ι} {effects : List (Effect ι)} {p q : StopPhase ι}
  {o : Outcome}

section Round

variable (cast server deps k)

/-- What a stop has done to the stand-ins that passes after `k` others, and what it has
    heard of them. -/
def InRound (now : ι → StandIn) : StopPhase ι → Prop
  | .arriving | .queued | .entering => True
  | .admitted _ _ | .announced _ _ | .draining _ _ _ => now = worked cast server deps k k []
  | .drained _ result _ => now = worked cast server deps (k + 1) k [] ∧
    System.causeOf result = (cast server).stopComplaint k
  | .spawning _ causes => now = worked cast server deps (k + 1) k [] ∧
    causes = (cast server).stopComplaint k
  | .closing tasks tray causes => now = worked cast server deps (k + 1) k (endedOf tasks) ∧
    (causes ++ tray.toList.flatMap Closing.causes).Perm
      ((cast server).stopComplaint k ++
        (endedOf tasks).flatMap fun d => (cast d).closeComplaint k)
  | .succeeded | .marked => now = worked cast server deps (k + 1) (k + 1) [] ∧
    complaints cast server deps k = []

variable {cast server deps k}

namespace InRound

section Closing

variable {tasks : List (Task ι)} {tray rest : Tray Closing} {causes : List Cause}
  {place number : Nat} {who : ι} {name : String}

/-- Tasks are there, and none has closed anybody yet. -/
theorem spawn (h : InRound cast server deps k now (.spawning deps causes)) (s : System ι) :
    InRound cast server deps k now (.closing (s.newTasks deps) {} causes) := by
  rcases h with ⟨hnow, rfl⟩
  rw [InRound, endedOf_newTasks]
  exact ⟨hnow, List.Perm.refl _⟩

/-- A closing ends, and what its stand-in has to say lies on the tray. -/
theorem closed (h : InRound cast server deps k now (.closing tasks tray causes))
    (htask : tasks[place]? = some ⟨number, who, .running name⟩)
    (hdeps : deps = tasks.map Task.who) (hnodup : deps.Nodup) :
    InRound cast server deps k (Trial.heed now (.returned .close who))
      (.closing (tasks.set place ⟨number, who, .finished⟩)
        (tray.add (.returned name (guarded name (now who).closeResult))) causes) := by
  rcases h with ⟨rfl, hcauses⟩
  have hended := endedOf_set_finished htask TaskState.noConfusion
  refine ⟨heed_close hended, ?_⟩
  have hnew : who ∉ endedOf tasks := notMem_endedOf htask TaskState.noConfusion (hdeps ▸ hnodup)
  have hwho : who ∈ deps := hdeps ▸ List.mem_map_of_mem (List.mem_of_getElem? htask)
  have hsays : (Closing.returned name (guarded name
      (worked cast server deps (k + 1) k (endedOf tasks) who).closeResult)).causes =
        (cast who).closeComplaint k := causeOf_closeResult hnodup hwho hnew name
  have htray := (tray.toList_add (.returned name (guarded name
    (worked cast server deps (k + 1) k (endedOf tasks) who).closeResult))).flatMap_right
      Closing.causes
  have hall := hended.flatMap_right fun d => (cast d).closeComplaint k
  rw [List.flatMap_cons, hsays] at htray
  rw [List.flatMap_cons] at hall
  -- The same goes in front on both sides.
  refine (htray.append_left causes).trans ((List.perm_append_comm_assoc _ _ _).trans ?_)
  refine List.Perm.trans ?_ (hall.append_left _).symm
  exact (hcauses.append_left _).trans (List.perm_append_comm_assoc _ _ _)

theorem take {closing : Closing} (h : InRound cast server deps k now (.closing tasks tray causes))
    (htake : tray.take? = some (closing, rest)) :
    InRound cast server deps k now (.closing tasks rest (causes ++ closing.causes)) := by
  rcases h with ⟨hnow, hcauses⟩
  rw [Tray.toList_take? htake, List.flatMap_cons, ← List.append_assoc] at hcauses
  exact ⟨hnow, hcauses⟩

/-- What is put aside, or comes back, is still to be heard. -/
theorem of_perm (h : InRound cast server deps k now (.closing tasks tray causes))
    (htray : rest.toList.Perm tray.toList) :
    InRound cast server deps k now (.closing tasks rest causes) :=
  ⟨h.1, ((htray.flatMap_right Closing.causes).append_left causes).trans h.2⟩

/-- When all were closed and everything was looked at, the round is over, and the stop
    has heard what there is to be heard. -/
theorem concluded (h : InRound cast server deps k now (.closing tasks tray causes))
    (hdeps : deps = tasks.map Task.who) (htray : tray.isEmpty = true)
    (htasks : ∀ task ∈ tasks, task.state = .finished) :
    now = worked cast server deps (k + 1) (k + 1) [] ∧
      causes.Perm (complaints cast server deps k) := by
  rcases h with ⟨hnow, hcauses⟩
  rw [Tray.toList_of_isEmpty htray, List.flatMap_nil, List.append_nil,
    endedOf_of_finished htasks, ← hdeps] at hcauses
  rw [endedOf_of_finished htasks, ← hdeps, worked_round] at hnow
  exact ⟨hnow, hcauses⟩

end Closing

/-- A stop goes on in its round. -/
theorem move (h : InRound cast server deps k t.cast p)
    (hp : t.system.stopPhase? call = some p) (haccepted : p.isAccepted = true)
    (hmove : System.StopMove t.system call p a effects q) (hprompt : t.prompt a = a)
    (hsound : p.Sound t.system.roster) (hserver : t.system.roster.server = some server)
    (hdeps : t.system.roster.dependencies = deps) (hnodup : deps.Nodup) :
    InRound cast server deps k (effects.foldl Trial.heed t.cast) q := by
  cases hmove with
  | accept _ => cases haccepted
  | announce | ask | mark | report => exact h
  | pass =>
      -- There is a server.
      have hnone := hsound.2.1
      rw [hserver] at hnone
      cases hnone
  | @drained who name _ result =>
      -- The server answers now, with what this round has for it.
      have hwho := hsound.2.1
      rw [hserver, Option.some.injEq] at hwho
      subst hwho
      have hresult := Trial.result_of_draining hp hprompt
      have hnow : t.cast = worked cast server deps k k [] := h
      rw [hnow] at hresult ⊢
      subst hresult
      exact ⟨heed_stop, causeOf_stopResult name⟩
  | @spawn seen causes =>
      -- The tasks are made for the dependencies of the roster, and none of them has begun.
      have hsilent : ∀ e ∈ System.spawnEffects call (t.system.newTasks seen),
          System.Silent call e :=
        fun e he => .of_isPlain (System.spawnEffects_plain _ e he)
      have hseen : seen = deps := hsound.2.symm.trans hdeps
      rw [foldl_heed_of_quiet fun e he => (hsilent e he).isStopWork]
      subst hseen
      exact h.spawn t.system
  | close htask =>
      rw [InRound, (begunOf_set_running _ htask).2]
      exact h
  -- A stand-in tells its name, so no task dies.
  | died htask => exact absurd hprompt (Trial.prompt_ne_died hp htask)
  | closed htask =>
      rw [Trial.result_of_closing hp htask hprompt]
      exact h.closed htask (hdeps.symm.trans hsound.2) hnodup
  | @take tasks tray rest causes closing htake =>
      have hquiet : ∀ e ∈ (closing.shown t.system.settings.name : List (Effect ι)),
          e.isStopWork = false := by
        cases closing <;> exact List.forall_mem_singleton.mpr rfl
      rw [foldl_heed_of_quiet hquiet]
      exact h.take htake
  | setAside hrest => exact h.of_perm (Tray.toList_setAside?_perm hrest)
  | bringBack hrest => exact h.of_perm (Tray.toList_bringBack?_perm hrest)
  | succeed htray htasks =>
      rcases h.concluded (hdeps.symm.trans hsound.2) htray htasks with ⟨hnow, hcauses⟩
      exact ⟨hnow, List.nil_perm.mp hcauses⟩

end InRound

end Round

section Rounds

variable (cast server deps)

/-- What has become of a stop that has passed after `k` others: it has ended as it should,
    or it is the last one and is accepted. -/
def Judged (t : Trial ι) (k call : Nat) : Prop :=
  (∃ o, t.system.calls[call]? = some (.ended o) ∧ Verdict cast server deps k o) ∨
    k + 1 = t.passed.length ∧ k ≤ mostFailures cast server deps ∧
      ∃ p, t.system.stopPhase? call = some p ∧ p.isAccepted = true

/-- A trial in which every stop but the last one is over, and all stand-ins have come as
    far. -/
structure Retrying (t : Trial ι) : Prop where
  /-- A stop passes once. -/
  nodup : t.passed.Nodup
  judged : ∀ k call, t.passed[k]? = some call → Judged cast server deps t k call
  /-- Between two rounds all were stopped or closed equally often. -/
  resting : t.system.IsIdle →
    t.cast = worked cast server deps (min t.passed.length (mostFailures cast server deps + 1))
      (min t.passed.length (mostFailures cast server deps + 1)) [] ∧
    (t.system.roster.stopped = true ↔ mostFailures cast server deps < t.passed.length)
  working : ∀ call p, t.system.stopPhase? call = some p → p.isAccepted = true →
    ∃ k, t.passed.length = k + 1 ∧ t.passed[k]? = some call ∧
      k ≤ mostFailures cast server deps ∧ InRound cast server deps k t.cast p

variable {cast server deps}

namespace Retrying

/-- Nobody has passed yet. -/
theorem of_fresh (hpassed : t.passed = []) (hcast : t.cast = cast) (hidle : t.system.IsIdle)
    (hopen : t.system.roster.stopped = false) : Retrying cast server deps t where
  nodup := hpassed ▸ List.nodup_nil
  judged k call hk := by
    rw [hpassed] at hk
    cases hk
  resting _ := by
    rw [hpassed, List.length_nil, Nat.zero_min, worked_zero, hopen]
    exact ⟨hcast, nofun, nofun⟩
  working call p hp haccepted := absurd haccepted (hidle call p hp)

theorem notMem_passed (h : Retrying cast server deps t)
    (hp : t.system.stopPhase? call = some .entering) : call ∉ t.passed := by
  intro hmem
  rcases List.getElem?_of_mem hmem with ⟨k, hk⟩
  rcases h.judged k call hk with ⟨o, ho, -⟩ | ⟨-, -, p, hp', haccepted⟩
  · rw [System.stopPhase?_eq_some, ho] at hp
    cases hp
  · rw [hp, Option.some.injEq] at hp'
    rw [← hp'] at haccepted
    cases haccepted

theorem nodup_passed (h : Retrying cast server deps t)
    (hp : t.system.stopPhase? call = some .entering) : (t.passed ++ [call]).Nodup := by
  refine List.nodup_append.mpr ⟨h.nodup, List.nodup_singleton call, fun i hi j hj hij => ?_⟩
  rw [List.mem_singleton.mp hj] at hij
  exact h.notMem_passed hp (hij ▸ hi)

section Step

variable (h : Retrying cast server deps t) (hended : ∀ (i : Nat) (o : Outcome),
  t.system.calls[i]? = some (Call.ended o) → u.system.calls[i]? = some (Call.ended o))

include h hended

/-- Others take steps, or a stop that is not accepted does. -/
theorem of_same (hcast : u.cast = t.cast) (hpassed : u.passed = t.passed)
    (hstopped : u.system.roster.stopped = t.system.roster.stopped)
    (hphase : ∀ call p, p.isAccepted = true →
      (u.system.stopPhase? call = some p ↔ t.system.stopPhase? call = some p)) :
    Retrying cast server deps u where
  nodup := hpassed ▸ h.nodup
  -- What was passed and what has ended are the same.
  judged k call hk := by
    rw [hpassed] at hk
    rcases h.judged k call hk with ⟨o, ho, hverdict⟩ | ⟨hlast, hle, p, hp, haccepted⟩
    · exact Or.inl ⟨o, hended call o ho, hverdict⟩
    · rw [← hpassed] at hlast
      exact Or.inr ⟨hlast, hle, p, (hphase call p haccepted).mpr hp, haccepted⟩
  resting hidle := by
    rw [hcast, hpassed, hstopped]
    exact h.resting fun call p hp haccepted =>
      hidle call p ((hphase call p haccepted).mpr hp) haccepted
  working call p hp haccepted := by
    rw [hcast, hpassed]
    exact h.working call p ((hphase call p haccepted).mp hp) haccepted

/-- Whoever passes has all others behind it. -/
theorem judged_append (hidle : t.system.IsIdle) (hpassed : u.passed = t.passed ++ [call])
    (hlast : Judged cast server deps u t.passed.length call) {i : Nat}
    (hk : u.passed[k]? = some i) : Judged cast server deps u k i := by
  rw [hpassed, List.getElem?_append] at hk
  split at hk
  · rcases h.judged k i hk with ⟨o, ho, hverdict⟩ | ⟨-, -, p, hp, haccepted⟩
    · exact Or.inl ⟨o, hended i o ho, hverdict⟩
    · -- Nobody was under way before.
      exact absurd haccepted (hidle i p hp)
  · -- The only place behind all others is that of the new one.
    rename_i hge
    rw [List.getElem?_singleton] at hk
    split at hk
    · rename_i hzero
      have hlength : k = t.passed.length := by omega
      cases hk
      rw [hlength]
      exact hlast
    · cases hk

/-- A stop is accepted and begins the next round. -/
theorem accept {seen : Option ι} {deps' : List ι} (hidle : t.system.IsIdle)
    (hp : t.system.stopPhase? call = some .entering)
    (hopen : t.system.roster.stopped = false) (hcast : u.cast = t.cast)
    (hpassed : u.passed = t.passed ++ [call])
    (hphase : ∀ i, u.system.stopPhase? i =
      if i = call then some (.admitted seen deps') else t.system.stopPhase? i) :
    Retrying cast server deps u := by
  rcases h.resting hidle with ⟨hnow, hstopped⟩
  -- The service is open, so no stop has succeeded before.
  have hle : t.passed.length ≤ mostFailures cast server deps := by
    rw [hopen] at hstopped
    exact Nat.not_lt.mp fun hlt => Bool.false_ne_true (hstopped.mpr hlt)
  have hself : u.system.stopPhase? call = some (.admitted seen deps') := by
    rw [hphase, if_pos rfl]
  have hlength : t.passed.length + 1 = u.passed.length := by
    rw [hpassed, List.length_append, List.length_singleton]
  refine ⟨?_, fun k i hk => ?_, fun hidle' => ?_, fun i p hi haccepted => ?_⟩
  · rw [hpassed]
    exact h.nodup_passed hp
  · exact h.judged_append hended hidle hpassed (Or.inr ⟨hlength, hle, _, hself, rfl⟩) hk
  · exact absurd rfl (hidle' call _ hself)
  · rw [hphase] at hi
    split at hi
    · rename_i hsame
      have hlast : u.passed[t.passed.length]? = some i := by
        rw [hpassed, List.getElem?_concat_length, hsame]
      -- Its round is the one after all that were passed, and nothing of it is done yet.
      refine ⟨t.passed.length, hlength.symm, hlast, hle, ?_⟩
      rw [← Option.some.inj hi, hcast, hnow, Nat.min_eq_left (Nat.le_succ_of_le hle)]
      rfl
    · exact absurd haccepted (hidle i p hi)

/-- A stop comes too late. -/
theorem refused (hidle : t.system.IsIdle) (hp : t.system.stopPhase? call = some .entering)
    (hstopped : t.system.roster.stopped = true) (hcast : u.cast = t.cast)
    (hpassed : u.passed = t.passed ++ [call]) (hidle' : u.system.IsIdle)
    (hstopped' : u.system.roster.stopped = true)
    (hgone : u.system.calls[call]? = some (.ended (.failed StopRefusal.stopped.failure))) :
    Retrying cast server deps u := by
  rcases h.resting hidle with ⟨hnow, hmost⟩
  have hlate := hmost.mp hstopped
  refine ⟨?_, fun k i hk => ?_, fun _ => ?_, fun i p hi haccepted => ?_⟩
  · rw [hpassed]
    exact h.nodup_passed hp
  · exact h.judged_append hended hidle hpassed (Or.inl ⟨_, hgone, .of_late hlate⟩) hk
  · have hlength : u.passed.length = t.passed.length + 1 := by
      rw [hpassed, List.length_append, List.length_singleton]
    -- The rounds were over before, and there is one stop more.
    rw [Nat.min_eq_right hlate] at hnow
    rw [hlength, Nat.min_eq_right (Nat.le_succ_of_le hlate), hcast, hnow, hstopped']
    exact ⟨rfl, fun _ => Nat.lt_succ_of_lt hlate, fun _ => rfl⟩
  · exact absurd haccepted (hidle' i p hi)

/-- The stop that is accepted goes on in its round. -/
theorem moved (hg : t.system.Gated) (hp : t.system.stopPhase? call = some p)
    (haccepted : p.isAccepted = true) (hq : q.isAccepted = true) (hpassed : u.passed = t.passed)
    (hphase : ∀ i, u.system.stopPhase? i = if i = call then some q else t.system.stopPhase? i)
    (hround : ∀ k, InRound cast server deps k t.cast p → InRound cast server deps k u.cast q) :
    Retrying cast server deps u := by
  have hself : u.system.stopPhase? call = some q := by rw [hphase, if_pos rfl]
  -- Nobody else is accepted.
  have honly : ∀ i r, t.system.stopPhase? i = some r → r.isAccepted = true → i = call :=
    fun i r hi hr => hg.eq_of_isInside hp (StopPhase.isInside_of_isAccepted haccepted) hi
      (StopPhase.isInside_of_isAccepted hr)
  refine ⟨hpassed ▸ h.nodup, fun k i hk => ?_, fun hidle' => ?_, fun i r hi hr => ?_⟩
  · rw [hpassed] at hk
    rcases h.judged k i hk with ⟨o, ho, hverdict⟩ | ⟨hlast, hle, r, hi, hr⟩
    · exact Or.inl ⟨o, hended i o ho, hverdict⟩
    · rw [← hpassed] at hlast
      rw [honly i r hi hr]
      exact Or.inr ⟨hlast, hle, q, hself, hq⟩
  · exact absurd hq (hidle' call q hself)
  · rw [hpassed]
    rw [hphase] at hi
    split at hi
    · rename_i hsame
      -- The stop that moves is still in its round.
      rcases h.working call p hp haccepted with ⟨k, hlength, hlast, hle, hin⟩
      rw [← Option.some.inj hi, hsame]
      exact ⟨k, hlength, hlast, hle, hround k hin⟩
    · rename_i hne
      exact absurd (honly i r hi hr) hne

/-- The stop that is accepted ends, and its round is over. -/
theorem ended (hg : t.system.Gated) (hp : t.system.stopPhase? call = some p)
    (haccepted : p.isAccepted = true) (hpassed : u.passed = t.passed)
    (hidle' : u.system.IsIdle) (hgone : u.system.calls[call]? = some (.ended o))
    (hround : ∀ k, k ≤ mostFailures cast server deps → InRound cast server deps k t.cast p →
      Verdict cast server deps k o ∧ u.cast = worked cast server deps (k + 1) (k + 1) [] ∧
        (u.system.roster.stopped = true ↔ mostFailures cast server deps ≤ k)) :
    Retrying cast server deps u := by
  rcases h.working call p hp haccepted with ⟨k, hlength, -, hle, hin⟩
  rcases hround k hle hin with ⟨hverdict, hnow, hstopped⟩
  refine ⟨hpassed ▸ h.nodup, fun k' i hk => ?_, fun _ => ?_, fun i r hi hr => ?_⟩
  · rw [hpassed] at hk
    rcases h.judged k' i hk with ⟨o, ho, hverdict⟩ | ⟨hlast, -, r, hi, hr⟩
    · exact Or.inl ⟨o, hended i o ho, hverdict⟩
    · -- The last one is the one that has ended.
      have hsame := hg.eq_of_isInside hp (StopPhase.isInside_of_isAccepted haccepted) hi
        (StopPhase.isInside_of_isAccepted hr)
      have hk' : k' = k := by omega
      subst hsame hk'
      exact Or.inl ⟨o, hgone, hverdict⟩
  · -- The round is over for everybody, so the stand-ins have done one more.
    rw [hpassed, hlength, Nat.min_eq_left (Nat.succ_le_succ hle), Nat.lt_succ_iff]
    exact ⟨hnow, hstopped⟩
  · exact absurd hr (hidle' i r hi)

end Step

section Steps

variable {settings : Settings} (h : Retrying cast server deps t)
  (hs : Reachable settings t.system) (hinit : t.system.roster.initialized = true)

include h hs

theorem approached (hp : t.system.stopPhase? call = some .arriving) :
    Retrying cast server deps
      ⟨{ t.system with turnstile := t.system.turnstile.enter call }.setStop call
        (if t.system.turnstile.holder.isNone then .entering else .queued), t.cast, t.passed⟩ := by
  have hstep := System.Step.approached hp
  refine h.of_same (fun i o => hstep.ended_stays hs.gated) rfl rfl rfl fun i p haccepted => ?_
  rw [System.stopPhase?_setStop hp]
  split
  · rename_i hi
    -- It was not accepted before, nor is it now.
    rw [hi, hp, Option.some.injEq, Option.some.injEq]
    constructor
    · rintro rfl
      split at haccepted <;> cases haccepted
    · rintro rfl
      cases haccepted
  · rfl

include hinit

theorem elsewhere {system : System ι}
    (hother : System.StepElsewhere t.system a system effects) :
    Retrying cast server deps ⟨system, t.cast, t.passed⟩ := by
  have hapart := hother.apart
  have hstep := System.Step.elsewhere hother
  refine h.of_same (fun i o => hstep.ended_stays hs.gated) rfl rfl
    (congrArg Roster.stopped (hapart.roster hinit))
    fun i p haccepted => ⟨fun hi => ?_, hapart.stays i p⟩
  rcases hapart.comes i p hi with hi | ⟨rfl, -⟩
  · exact hi
  · cases haccepted

/-- A stop goes on that has come from the turnstile: it is accepted, or was before. -/
theorem stopMoved (hp : t.system.stopPhase? call = some p)
    (hmove : System.StopMove t.system call p a effects q) (hprompt : t.prompt a = a)
    (hserver : t.system.roster.server = some server)
    (hdeps : t.system.roster.dependencies = deps) (hnodup : deps.Nodup) :
    Retrying cast server deps
      ⟨{ t.system with
          roster := p.rosterAfter t.system.roster
          taskCount := t.system.taskCount + p.toSpawn.length }.setStop call q,
        effects.foldl Trial.heed t.cast, t.passed ++ t.passing a⟩ := by
  have hstep := System.Step.stopMoved hp hmove
  have hphase := System.stopPhase?_setStop hp (p.rosterAfter t.system.roster)
    t.system.turnstile (t.system.taskCount + p.toSpawn.length) q
  have hpassing := Trial.passing_of_stopMove hp hinit hmove
  cases haccepted : p.isAccepted with
  | false =>
      rw [haccepted, if_neg Bool.false_ne_true] at hpassing
      rw [hpassing]
      cases hmove with
      | accept haccept =>
          -- Among those not yet accepted one moves, by being accepted, and begins a round.
          exact h.accept (fun i o => hstep.ended_stays hs.gated) (.of_entering hs.gated hp) hp
            (Roster.isOpen_of_admitStop haccept).1.2 rfl rfl hphase
      | _ => cases haccepted
  | true =>
      rw [haccepted, if_pos rfl] at hpassing
      -- Any other move is one within the round.
      rw [hpassing, List.append_nil]
      exact h.moved (fun i o => hstep.ended_stays hs.gated) hs.gated hp haccepted
        hmove.isAccepted rfl hphase fun k hin =>
          hin.move hp haccepted hmove hprompt (hs.sound call p hp) hserver hdeps hnodup

/-- A stop ends: it comes too late, has met failures, or has succeeded. -/
theorem stopEnded (hp : t.system.stopPhase? call = some p)
    (hend : System.StopEnd t.system call p a effects o) (hprompt : t.prompt a = a)
    (hdeps : t.system.roster.dependencies = deps) :
    Retrying cast server deps
      ⟨(t.system.finishStop call o).1, t.cast, t.passed ++ t.passing a⟩ := by
  have hstep := System.Step.stopEnded hp hend
  have hstays : ∀ (i : Nat) (o' : Outcome), t.system.calls[i]? = some (Call.ended o') →
      (t.system.finishStop call o).1.calls[i]? = some (Call.ended o') :=
    fun i o' => hstep.ended_stays hs.gated
  have hidle := System.IsIdle.finishStop hs.gated hp hend.isInside o
  have hgone := hs.gated.ended_finishStop hp hend.isInside (o := o)
  have hroster := System.roster_finishStop t.system call o
  have hsound := hs.sound call p hp
  rw [Trial.passing_of_stopEnd hp hinit hend]
  cases hend with
  | refused hrefused =>
      rcases Roster.stopped_of_admitStop hinit hrefused with ⟨hstopped, rfl⟩
      refine h.refused hstays (.of_entering hs.gated hp) hp hstopped rfl rfl hidle ?_ hgone
      rw [hroster]
      exact hstopped
  | nameless => exact absurd hprompt (Trial.prompt_ne_nameless hp)
  | failed htray htasks hcauses =>
      refine h.ended hstays hs.gated hp rfl (List.append_nil _) hidle hgone fun k hle hin => ?_
      rcases hin.concluded (hdeps.symm.trans hsound.2) htray htasks with ⟨hnow, hperm⟩
      refine ⟨.of_failed hle hperm hcauses, hnow, ?_⟩
      -- There was something to be heard, so this is not the round in which all do well.
      rw [hroster, hsound.1.2, ← complaints_eq_nil_iff]
      refine ⟨nofun, fun hnil => ?_⟩
      rw [hnil] at hperm
      exact absurd hperm.eq_nil hcauses
  | done =>
      refine h.ended hstays hs.gated hp rfl (List.append_nil _) hidle hgone fun k hle hin => ?_
      -- There was nothing to be heard, so every round that fails is over.
      have hmost := (complaints_eq_nil_iff cast server deps k).mp hin.2
      refine ⟨.of_done (Nat.le_antisymm hle hmost), hin.1, ?_⟩
      rw [hroster]
      exact ⟨fun _ => hmost, fun _ => hsound.2⟩

/-- A step of a trial keeps the rounds in order. -/
theorem step (hserver : t.system.roster.server = some server)
    (hdeps : t.system.roster.dependencies = deps) (hnodup : deps.Nodup)
    (hact : t.act a = some (u, effects)) : Retrying cast server deps u := by
  have hprompt := Trial.prompt_prompt t a
  rcases Trial.step_of_act hact with ⟨hstep, hcast, hpassed⟩
  generalize t.prompt a = a at hprompt hstep hpassed
  rcases u with ⟨system, now, passed⟩
  dsimp only at hstep hcast hpassed
  subst hpassed
  cases hstep with
  | elsewhere hother =>
      -- Nobody is stopped or closed elsewhere, so the stand-ins stay as they are.
      rw [foldl_heed_of_quiet hother.apart.silent] at hcast
      rw [hcast, Trial.passing_eq_nil fun call hp => hother.apart.caller call _ hp,
        List.append_nil]
      exact h.elsewhere hs hinit hother
  | @approached call hp =>
      have hnobody : t.passing (.approach call) = [] := rfl
      rw [hcast, hnobody, List.append_nil]
      exact h.approached hs hp
  | stopMoved hp hmove =>
      rw [hcast]
      exact h.stopMoved hs hinit hp hmove hprompt hserver hdeps hnodup
  | stopEnded hp hend =>
      -- A stop that ends asks nobody any more.
      rw [foldl_heed_of_quiet hend.quiet] at hcast
      rw [hcast]
      exact h.stopEnded hs hinit hp hend hprompt hdeps

end Steps

end Retrying

end Rounds

/-- A trial as it was begun, or one in which stops are made. -/
structure Kept (cast : ι → StandIn) (t : Trial ι) : Prop where
  /-- As long as the service is not started, nothing is asked of anybody. -/
  fresh : t.system.roster.initialized = false → t.passed = [] ∧ t.cast = cast
  retrying : t.system.roster.initialized = true → ∀ server,
    t.system.roster.server = some server → t.system.roster.dependencies.Nodup →
    Retrying cast server t.system.roster.dependencies t

namespace Kept

theorem begin (settings : Settings) (cast : ι → StandIn) :
    Kept cast (Trial.begin settings cast) :=
  ⟨fun _ => ⟨rfl, rfl⟩, nofun⟩

theorem step {settings : Settings} (h : Kept cast t) (hs : Reachable settings t.system)
    (hact : t.act a = some (u, effects)) : Kept cast u := by
  rcases Trial.step_of_act hact with ⟨hstep, hcast, hpassed⟩
  cases hinit : t.system.roster.initialized with
  | false =>
      have hclosed : ¬t.system.roster.IsOpen := by
        rintro ⟨hopen, -⟩
        rw [hinit] at hopen
        cases hopen
      -- Before it is started a service does nothing to anybody, also in the step in
      -- which it is started.
      rcases h.fresh hinit with ⟨hnobody, hsame⟩
      rw [foldl_heed_of_quiet (hstep.quiet hs.sound hclosed), hsame] at hcast
      rw [Trial.passing_of_uninitialized hinit, List.append_nil, hnobody] at hpassed
      have hidle := (System.IsIdle.of_uninitialized hs.sound hinit).step hs.gated hs.sound hstep
        hclosed
      have hopen : t.system.roster.stopped = false := by
        by_contra hstopped
        rw [hs.initialized_of_stopped (eq_true_of_ne_false hstopped)] at hinit
        cases hinit
      have hopen' := hstep.stopped_eq_false hs.sound hinit hopen
      exact ⟨fun _ => ⟨hpassed, hcast⟩, fun _ server _ _ => .of_fresh hpassed hcast hidle hopen'⟩
  | true =>
      have hleads := hstep.leadsTo
      rcases hleads.frozen hinit with ⟨hserver, hdeps⟩
      refine ⟨fun hnot => ?_, fun _ server hwho hnodup => ?_⟩
      · rw [hleads.initialized hinit] at hnot
        cases hnot
      · rw [hserver] at hwho
        rw [hdeps] at hnodup ⊢
        exact (h.retrying hinit server hwho hnodup).step hs hinit hwho rfl hnodup hact

theorem of_run {settings : Settings} {actions : List (Action ι)}
    (h : runOf Trial.act (Trial.begin settings cast) actions = some (t, effects)) :
    Reachable settings t.system ∧ Kept cast t :=
  runOf_induction (fun _ t _ => Reachable settings t.system ∧ Kept cast t)
    ⟨.initial, begin settings cast⟩
    (fun _ _ _ _ _ _ _ _ ⟨hs, hkept⟩ hact => ⟨Trial.reachable_of_act hs hact, hkept.step hs hact⟩)
    h

end Kept

/-- What has become of the stops of a service whose server and dependencies are
    stand-ins. -/
structure Retried (cast : ι → StandIn) (server : ι) (deps : List ι) (t : Trial ι) : Prop where
  /-- Every stop has one number. -/
  nodup : t.passed.Nodup
  judged : ∀ k call, t.passed[k]? = some call → Judged cast server deps t k call
  /-- Every stop has asked all, until one has succeeded. -/
  counted : t.system.IsIdle →
    (t.cast server).stops = (cast server).stops +
      min t.passed.length (mostFailures cast server deps + 1) ∧
    ∀ d ∈ deps, (t.cast d).closes = (cast d).closes +
      min t.passed.length (mostFailures cast server deps + 1)
  /-- From then on nobody is asked for anything. -/
  untouched : mostFailures cast server deps < t.passed.length → t.system.IsIdle →
    ∀ a u effects, t.act a = some (u, effects) →
      (∀ e ∈ effects, e.isStopWork = false) ∧ u.cast = t.cast ∧ u.system.IsIdle
  /-- Every stop gets a number, and an end, if nobody stands in the way of the steps that
      are due. -/
  returns : ∀ call p, t.system.stopPhase? call = some p → ∃ more u later k o,
    runOf Trial.act t more = some (u, later) ∧ u.passed[k]? = some call ∧
    u.system.calls[call]? = some (.ended o) ∧ Verdict cast server deps k o

/-- Stops are tried again and again until nobody fails any more. Then one succeeds, and all
    others come too late. -/
theorem stops_are_retried {settings : Settings} {actions : List (Action ι)}
    (h : runOf Trial.act (Trial.begin settings cast) actions = some (t, effects))
    (hinit : t.system.roster.initialized = true)
    (hserver : t.system.roster.server = some server)
    (hdistinct : t.system.roster.dependencies.Nodup) :
    Retried cast server t.system.roster.dependencies t := by
  rcases Kept.of_run h with ⟨hs, hkept⟩
  have hretrying := hkept.retrying hinit server hserver hdistinct
  refine ⟨hretrying.nodup, hretrying.judged, fun hidle => ?_, fun hlate hidle a u now hact => ?_,
    fun call p hp => ?_⟩
  · -- Between the rounds the counters are those of the rounds that are done.
    rw [(hretrying.resting hidle).1]
    exact ⟨stops_worked, fun d hd => closes_worked hdistinct hd⟩
  · -- After the round in which the last failure was used up the service is stopped,
    -- and everybody is turned away.
    have hclosed : ¬t.system.roster.IsOpen := by
      rintro ⟨-, hopen⟩
      rw [(hretrying.resting hidle).2.mpr hlate] at hopen
      cases hopen
    rcases Trial.step_of_act hact with ⟨hstep, hcast, -⟩
    have hquiet := hstep.quiet hs.sound hclosed
    rw [foldl_heed_of_quiet hquiet] at hcast
    exact ⟨hquiet, hcast, hidle.step hs.gated hs.sound hstep hclosed⟩
  · -- Each stop has a number already, or gets one with its next step; it
    -- comes to an end in any case.
    have hmind : t.Minds call := by
      cases haccepted : p.isAccepted with
      | false => exact Or.inl ⟨p, hp, haccepted⟩
      | true =>
          rcases hretrying.working call p hp haccepted with ⟨k, -, hk, -⟩
          exact Or.inr (List.mem_of_getElem? hk)
    rcases Trial.exists_run_ended hs hp with ⟨more, u, later, -, hrun, o, hended⟩
    have hmem := Trial.mem_passed_of_run hs hinit hmind hrun hended
    rcases List.getElem?_of_mem hmem with ⟨k, hk⟩
    -- The service is the same, so what was said of one end is said of the other.
    have hleads := Trial.leadsTo_of_run hrun
    rcases hleads.frozen hinit with ⟨hserver', hdeps'⟩
    have hlater := (Kept.of_run (runOf_append h hrun)).2.retrying (hleads.initialized hinit) server
      (hserver'.trans hserver) (hdeps' ▸ hdistinct)
    rw [hdeps'] at hlater
    rcases hlater.judged k call hk with ⟨o', ho', hverdict⟩ | ⟨-, -, p', hp', -⟩
    · exact ⟨more, u, later, k, o', hrun, hk, ho', hverdict⟩
    · rw [System.stopPhase?_eq_some, hended] at hp'
      cases hp'

/-- Four stops that overlap, of a server that fails once and a dependency that fails twice
    beside one that does well. -/
theorem stops_are_retried_overlapping :
    let cast : Nat → StandIn := fun
      | 0 => ({ name := "api" } : StandIn).failingStop 1
      | 1 => ({ name := "db" } : StandIn).failingClose 2
      | _ => { name := "kv" }
    let stop (call : Nat) : List (Action Nat) := [.enterStop call, .announceStop call,
      .nameForStop call (.ok ""), .endDraining call (.ok (.ok ())), .reportServer call,
      .spawnCloses call, .runClose call 0 (.ok ""), .runClose call 1 (.ok ""),
      .endClose call 1 (.ok (.ok ())), .endClose call 0 (.ok (.ok ())), .joinClose call,
      .joinClose call, .concludeStop call]
    let actions : List (Action Nat) := [.serve (fun _ _ => .ok "api") (some 0),
      .attach (fun _ _ => .ok "db") (some 1), .attach (fun _ _ => .ok "kv") (some 2),
      .begin .start, .enterStart 3 (.ok ()), .begin .stop, .begin .stop, .begin .stop,
      .begin .stop, .approach 5, .approach 4, .approach 6, .approach 7] ++ stop 5 ++ stop 4 ++
      stop 6 ++ [.markStopped 6, .announceStopped 6, .enterStop 7]
    let causes : Call Nat → Option Nat := fun
      | .ended (.failed failure) => some failure.causes.length
      | _ => none
    ∃ t effects, runOf Trial.act (Trial.begin Settings.standard cast) actions =
        some (t, effects) ∧
      Retried cast 0 [1, 2] t ∧ t.passed = [5, 4, 6, 7] ∧
      (t.system.calls.drop 4).map causes = [some 1, some 2, none, some 0] ∧
      [(t.cast 0).stops, (t.cast 1).closes, (t.cast 2).closes] = [3, 3, 3] := by
  intro cast stop actions causes
  -- The stops are accepted in the order in which they came to the turnstile, and the third
  -- is the first without a failure.
  have hroster : ((runOf Trial.act (Trial.begin Settings.standard cast) actions).map fun last =>
      (last.1.system.roster.initialized, last.1.system.roster.server,
        last.1.system.roster.dependencies)) = some (true, some 0, [1, 2]) := by
    decide +kernel
  have hlook : ((runOf Trial.act (Trial.begin Settings.standard cast) actions).map fun last =>
      (last.1.passed, (last.1.system.calls.drop 4).map causes,
        [(last.1.cast 0).stops, (last.1.cast 1).closes, (last.1.cast 2).closes])) =
      some ([5, 4, 6, 7], [some 1, some 2, none, some 0], [3, 3, 3]) := by
    decide +kernel
  rcases Option.map_eq_some_iff.mp hroster with ⟨⟨t, effects⟩, hrun, hlast⟩
  simp only [Prod.mk.injEq] at hlast
  rcases hlast with ⟨hinit, hserver, hdeps⟩
  have hretried := stops_are_retried hrun hinit hserver (by rw [hdeps]; decide)
  rw [hdeps] at hretried
  simp only [hrun, Option.map_some, Option.some.injEq, Prod.mk.injEq] at hlook
  exact ⟨t, effects, hrun, hretried, hlook⟩

end Rehearsal

end Steward
