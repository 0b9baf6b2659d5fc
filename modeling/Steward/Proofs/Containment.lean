import Steward.Proofs.Report

/-!
# Where Panics Get Through

Which panics of participants reach a caller, and what they leave behind.

The code of a participant runs in a task of its own or under a guard, so a panic
in it becomes an error, or the death of a task that somebody joins. The names of
dependencies are asked for in such tasks too. What is left is the name of the
server. A start asks for it between marking the service as initialized and
launching the server, and a stop before it does anything else, and neither is
guarded. A panic there goes to the caller, and what should have come after it
never does: the service is initialized without a server for good, or no
dependency is asked to close.

That this is all there is needs three arguments. The end of a call says in which
way it has ended, so for the first one it is enough to look at the ends. For the
second, every start that is accepted is accounted for: it is about to launch the
server, has launched it, or has lost it to a panic (`System.Accounted`). The third
is read off the record of a stop.

## Main definitions

* `Action.losesServer`: The server panics when a start asks it for its name.
* `System.Stranded`: The service is initialized and its server never launched.
* `System.Accounted`: What has become of the start that was accepted.
* `CallEnd`: A call that was under way ends.
* `System.Attends`: What an accepted stop does for its dependencies.

## Theorems

* `Step.callEnd`: A call that was under way ends in one of the known ways.
* `Accounted.step`: A step keeps account of the start that was accepted.
* `stranded_iff_of_run`: What it takes to lose the server.
* `dead_eq_nil_iff_of_run`: What it takes for a task of a stop to die.
* `panics_get_through`: Where panics get through, and that they do nowhere else.
-/

namespace Steward

variable {ι : Type}

/-- Whether a start was accepted and has yet to launch the server. -/
def StartPhase.isLaunching : StartPhase ι → Bool
  | .admitted _ | .named _ _ | .announced _ _ => true
  | .entering | .waiting _ _ => false

/-- Whether a call is a start that has yet to launch the server. -/
def Call.isLaunching : Call ι → Bool
  | .starting p => p.isLaunching
  | _ => false

/-- Whether the server was ever launched. -/
def ServerTask.isLaunched : ServerTask ι → Bool
  | .absent => false
  | _ => true

/-- Whether the server panics when a start asks it for its name. -/
def Action.losesServer : Action ι → Bool
  | .nameForStart _ (.error _) => true
  | _ => false

namespace System

variable {s t : System ι} {call lost : Nat} {effects : List (Effect ι)} {a : Action ι}
  {o : Outcome} {p : StopPhase ι}

/-- How many starts have yet to launch the server. -/
def launching (s : System ι) : Nat :=
  s.calls.countP Call.isLaunching

/-- The service is initialized, its server was never launched, and no start is
    going to. -/
structure Stranded (s : System ι) : Prop where
  initialized : s.roster.initialized = true
  absent : s.serverTask = .absent
  nobody : ∀ c ∈ s.calls, c.isLaunching = false

/-- A start was accepted if the service is initialized. It has yet to launch the
    server, has launched it, or is one of those that have lost it. -/
def Accounted (s : System ι) (lost : Nat) : Prop :=
  s.launching + s.serverTask.isLaunched.toNat + lost = s.roster.initialized.toNat

theorem launching_set {old new : Call ι} (h : s.calls[call]? = some old)
    (hcalls : t.calls = s.calls.set call new) :
    t.launching + old.isLaunching.toNat = s.launching + new.isLaunching.toNat := by
  rcases exists_append_of_getElem? h with ⟨front, back, hold, hset⟩
  rw [launching, launching, hcalls, hset, hold]
  simp only [List.countP_append, List.countP_cons]
  cases old.isLaunching <;> cases new.isLaunching <;>
    simp only [Bool.toNat_true, Bool.toNat_false, if_true, Bool.false_eq_true, if_false] <;> omega

theorem launching_of_set {old new : Call ι} (h : s.calls[call]? = some old)
    (hcalls : t.calls = s.calls.set call new) (hsame : new.isLaunching = old.isLaunching) :
    t.launching = s.launching := by
  have hlaunching := launching_set h hcalls
  rw [hsame] at hlaunching
  omega

theorem launching_append {new : Call ι} (hnew : new.isLaunching = false)
    (hcalls : t.calls = s.calls ++ [new]) : t.launching = s.launching := by
  rw [launching, launching, hcalls, List.countP_append, List.countP_singleton, hnew]
  rfl

theorem launching_finishStop (hg : s.Gated) (hp : s.stopPhase? call = some p)
    (hin : p.isInside = true) : (s.finishStop call o).1.launching = s.launching := by
  have hcall := stopPhase?_eq_some.mp hp
  have hended : (s.setCall call (.ended o)).launching = s.launching :=
    launching_of_set hcall rfl rfl
  rw [finishStop_eq]
  cases hhead : s.turnstile.waiting.head? with
  | none => exact hended
  | some next =>
      -- Neither before nor after is the next one a start.
      have hnext : (s.setCall call (.ended o)).calls[next]? = some (.stopping .queued) := by
        rcases hg.of_head? hp hin hhead with ⟨hne, hqueued⟩
        rw [setCall, List.getElem?_set_ne hne.symm]
        exact stopPhase?_eq_some.mp hqueued
      have hlet : System.launching { s with
          turnstile := s.turnstile.leave
          calls := (s.calls.set call (.ended o)).set next (.stopping .entering) } =
          (s.setCall call (.ended o)).launching :=
        launching_of_set hnext rfl rfl
      exact hlet.trans hended

namespace Accounted

theorem initial (settings : Settings) : (System.initial settings : System ι).Accounted 0 := by
  unfold Accounted
  rfl

/-- A step that changes one call, and keeps account with what it changes
    besides. -/
theorem of_set {old new : Call ι} {gone : Nat} (hs : s.Accounted lost)
    (h : s.calls[call]? = some old) (hcalls : t.calls = s.calls.set call new)
    (hsum : new.isLaunching.toNat + t.serverTask.isLaunched.toNat + gone +
        s.roster.initialized.toNat =
      old.isLaunching.toNat + s.serverTask.isLaunched.toNat + t.roster.initialized.toNat) :
    t.Accounted (lost + gone) := by
  have hlaunching := launching_set h hcalls
  unfold Accounted at hs ⊢
  omega

theorem of_same (hs : s.Accounted lost) (hcalls : t.launching = s.launching)
    (htask : t.serverTask.isLaunched = s.serverTask.isLaunched)
    (hinit : t.roster.initialized = s.roster.initialized) : t.Accounted lost := by
  unfold Accounted
  rw [hcalls, htask, hinit]
  exact hs

theorem of_register {kind : EventKind} {outcome : Registration × Roster ι}
    (hs : s.Accounted lost) (hinit : outcome.2.initialized = s.roster.initialized) :
    (s.register kind outcome).1.Accounted lost := by
  rcases outcome with ⟨outcome, roster⟩
  cases outcome with
  | accepted name | refused failure | panicked p =>
      exact hs.of_same (launching_append rfl rfl) rfl hinit

theorem of_startMove {q q' : StartPhase ι} {shown : List (Effect ι)} (hs : s.Accounted lost)
    (hq : s.startPhase? call = some q) (h : StartMove s call q a shown q') :
    (s.setStart call q').Accounted (lost + a.losesServer.toNat) := by
  have hcall := startPhase?_eq_some.mp hq
  cases h with
  | name | announce | exited _ => exact hs.of_set hcall rfl rfl

/-- A start that ends has launched the server, was never accepted, or loses the
    server with this. -/
theorem of_startEnd {q : StartPhase ι} {shown : List (Effect ι)} (hs : s.Accounted lost)
    (hq : s.startPhase? call = some q) (h : StartEnd s call q a shown o) :
    (s.setCall call (.ended o)).Accounted (lost + a.losesServer.toNat) := by
  have hcall := startPhase?_eq_some.mp hq
  cases h with
  | refused _ | heeded _ | failed _ _ => exact hs.of_set hcall rfl rfl
  | nameless =>
      -- One start less is about to launch the server, and one more has lost it.
      refine hs.of_set hcall rfl ?_
      simp only [Call.isLaunching, StartPhase.isLaunching, Action.losesServer, Bool.toNat_true,
        Bool.toNat_false, setCall]
      omega

/-- A step keeps account of the start that was accepted. -/
theorem step (hs : s.Accounted lost) (hg : s.Gated) (h : Step s a t effects) :
    t.Accounted (lost + a.losesServer.toNat) := by
  -- The mark stands for a start that is about to launch, for the server that was launched, or for
  -- one that was lost. Only steps of starts have a part in it.
  cases h with
  | elsewhere h =>
      cases h with
      | @serve ask offered =>
          refine hs.of_register ?_
          rcases s.roster.serve_cases ask offered with
            ⟨-, hafter⟩ | ⟨who, name, -, -, -, -, hafter⟩ <;> rw [hafter]
      | @attach ask offered =>
          refine hs.of_register ?_
          rcases s.roster.attach_cases ask offered with
            ⟨-, hafter⟩ | ⟨who, name, -, -, -, hafter⟩ <;> rw [hafter]
      | announceRegistered hcall => exact hs.of_set hcall rfl rfl
      | @begin kind =>
          have hkind : (kind.begun : Call ι).isLaunching = false := by
            cases kind <;> rfl
          exact hs.of_same (launching_append hkind rfl) rfl rfl
      | runServer htask | endServer htask =>
          refine hs.of_same rfl ?_ rfl
          rw [htask]
          rfl
      | hear => exact hs.of_same rfl rfl rfl
      | startAdmitted hp haccept =>
          -- The mark is set, and this start is what it stands for.
          rcases Roster.of_admitStart haccept with ⟨hinit, -, rfl⟩
          refine hs.of_set (startPhase?_eq_some.mp hp) rfl ?_
          rw [hinit]
          simp only [Call.isLaunching, StartPhase.isLaunching, Action.losesServer,
            Bool.toNat_true, Bool.toNat_false, setStart, setCall]
          omega
      | launched hp =>
          -- One start is about to launch the server, so it was not launched before.
          have hcall := startPhase?_eq_some.mp hp
          have hpos : 0 < s.launching :=
            List.countP_pos_iff.mpr ⟨_, List.mem_of_getElem? hcall, rfl⟩
          have habsent : s.serverTask.isLaunched.toNat = 0 := by
            have hle : s.roster.initialized.toNat ≤ 1 := Bool.toNat_le _
            unfold Accounted at hs
            omega
          refine hs.of_set hcall rfl ?_
          rw [habsent]
          simp only [Call.isLaunching, StartPhase.isLaunching, ServerTask.isLaunched,
            Action.losesServer, Bool.toNat_true, Bool.toNat_false, setStart, setCall]
      | startMoved hp hmove => exact hs.of_startMove hp hmove
      | startEnded hp hend => exact hs.of_startEnd hp hend
      | statusEntered hp => exact hs.of_set (statusPhase?_eq_some.mp hp) rfl rfl
      | statusMoved hp hmove =>
          cases hmove with
          | ask _ | died _ | answered _ | take _ | setAside _ | bringBack _ =>
              exact hs.of_set (statusPhase?_eq_some.mp hp) rfl rfl
      | statusEnded hp hend =>
          cases hend with
          | concluded _ _ => exact hs.of_set (statusPhase?_eq_some.mp hp) rfl rfl
  | approached hp => exact hs.of_set (stopPhase?_eq_some.mp hp) rfl rfl
  | @stopMoved call p q a shown hp hmove =>
      have hinit : (p.rosterAfter s.roster).initialized = s.roster.initialized := by
        cases p <;> rfl
      have hlost : a.losesServer = false := by
        cases hmove <;> rfl
      rw [hlost]
      exact hs.of_same (launching_of_set (stopPhase?_eq_some.mp hp) rfl rfl) rfl hinit
  | @stopEnded call p a shown o hp hend =>
      have hlost : a.losesServer = false := by
        cases hend <;> rfl
      rw [hlost]
      refine hs.of_same (launching_finishStop hg hp hend.isInside) ?_ ?_
      · rw [serverTask_finishStop]
      · rw [roster_finishStop]

end Accounted

theorem accounted_of_run {settings : Settings} {actions : List (Action ι)}
    (h : (System.initial settings).run actions = some (s, effects)) :
    s.Accounted (actions.countP Action.losesServer) := by
  refine run_induction (fun actions s => s.Accounted (actions.countP Action.losesServer))
    (.initial settings) ?_ h
  intro before u shown a v now _ hrun hu hact
  have hv := hu.step (Reachable.initial.run hrun).gated (step_of_act hact)
  rw [List.countP_append, List.countP_singleton]
  cases hlost : a.losesServer <;> rw [hlost] at hv <;> exact hv

theorem losesServer_iff : a.losesServer = true ↔ ∃ call panic, a = .nameForStart call (.error panic) := by
  constructor
  · intro h
    unfold Action.losesServer at h
    split at h
    · rename_i call panic
      exact ⟨call, panic, rfl⟩
    · cases h
  · rintro ⟨call, panic, rfl⟩
    rfl

/-- A service loses its server if and only if the server panics when a start asks
    it for its name. -/
theorem stranded_iff_of_run {settings : Settings} {actions : List (Action ι)}
    (h : (System.initial settings).run actions = some (s, effects)) :
    s.Stranded ↔ ∃ call panic, .nameForStart call (.error panic) ∈ actions := by
  have hsum := accounted_of_run h
  unfold Accounted at hsum
  constructor
  · rintro ⟨hinit, habsent, hnobody⟩
    have hnone : s.launching = 0 :=
      List.countP_eq_zero.mpr fun c hc => Bool.eq_false_iff.mp (hnobody c hc)
    -- The start that was accepted is neither under way nor done, so it is lost.
    rw [hinit, habsent, hnone] at hsum
    have hpos : 0 < actions.countP Action.losesServer := by
      simp only [ServerTask.isLaunched, Bool.toNat_true, Bool.toNat_false] at hsum
      omega
    rcases List.countP_pos_iff.mp hpos with ⟨a, ha, hlost⟩
    rcases losesServer_iff.mp hlost with ⟨call, panic, rfl⟩
    exact ⟨call, panic, ha⟩
  · rintro ⟨call, panic, hmem⟩
    have hpos : 0 < actions.countP Action.losesServer :=
      List.countP_pos_iff.mpr ⟨_, hmem, rfl⟩
    have hle : s.roster.initialized.toNat ≤ 1 := Bool.toNat_le _
    -- There is one start to account for, and this is it.
    have hinit : s.roster.initialized.toNat = 1 := by omega
    have hnone : s.launching = 0 := by omega
    have htask : s.serverTask.isLaunched.toNat = 0 := by omega
    refine ⟨Bool.toNat_eq_one.mp hinit, ?_, fun c hc => ?_⟩
    · cases hserver : s.serverTask with
      | absent => rfl
      | _ =>
          rw [hserver] at htask
          cases htask
    · exact Bool.eq_false_iff.mpr (List.countP_eq_zero.mp hnone c hc)

/-- A call that was under way ends. -/
inductive CallEnd (s : System ι) (call : Nat) (a : Action ι) (o : Outcome) : Prop where
  | registration (hdone : o = .done)
  | start {q : StartPhase ι} {shown : List (Effect ι)} (hend : StartEnd s call q a shown o)
  | stop {q : StopPhase ι} {shown : List (Effect ι)} (hphase : s.stopPhase? call = some q)
      (hend : StopEnd s call q a shown o)
  | status {q : StatusPhase ι} {shown : List (Effect ι)} (hend : StatusEnd call q a shown o)

theorem unfinished_register {kind : EventKind} {outcome : Registration × Roster ι}
    (hlt : call < s.calls.length) : .finished call o ∉ (s.register kind outcome).2 := by
  rcases outcome with ⟨outcome, roster⟩
  intro hmem
  cases outcome with
  | accepted name => cases hmem
  | refused failure | panicked p =>
      cases List.mem_singleton.mp hmem
      exact absurd hlt (Nat.lt_irrefl _)

/-- A call that was under way ends in one of the known ways. -/
theorem Step.callEnd (h : Step s a t effects) (hlt : call < s.calls.length)
    (hmem : .finished call o ∈ effects) : CallEnd s call a o := by
  cases h with
  | elsewhere h =>
      cases h with
      -- A registration that is made in this step is a new call.
      | serve | attach => exact absurd hmem (unfinished_register hlt)
      | announceRegistered _ =>
          rcases List.mem_cons.mp hmem with hmem | hmem
          · cases hmem
          · cases List.mem_singleton.mp hmem
            exact .registration rfl
      | begin | hear | startAdmitted _ _ => cases hmem
      | runServer _ | launched _ => cases List.mem_singleton.mp hmem
      | endServer _ =>
          rcases List.mem_cons.mp hmem with hmem | hmem
          · cases hmem
          · rcases List.mem_map.mp hmem with ⟨i, -, hi⟩
            cases hi
      | startMoved _ hmove => exact absurd hmem (unfinished_of_plain hmove.plain.2)
      | startEnded _ hend =>
          rcases List.mem_append.mp hmem with hmem | hmem
          · exact absurd hmem (unfinished_of_plain hend.plain.2)
          · cases List.mem_singleton.mp hmem
            exact .start hend
      | statusEntered _ => exact absurd hmem (unfinished_of_plain (spawnEffects_plain _))
      | statusMoved _ hmove => exact absurd hmem (unfinished_of_plain hmove.plain.2)
      | statusEnded _ hend =>
          rcases List.mem_append.mp hmem with hmem | hmem
          · exact absurd hmem (unfinished_of_plain hend.plain.2)
          · cases List.mem_singleton.mp hmem
            exact .status hend
  | approached _ => cases hmem
  | stopMoved _ hmove => exact absurd hmem hmove.unfinished
  | stopEnded hp hend =>
      -- Letting the next stop through is not the end of a call.
      rw [finishStop_eq] at hmem
      rcases List.mem_append.mp hmem with hmem | hmem
      · exact absurd hmem hend.unfinished
      · rcases List.mem_append.mp hmem with hmem | hmem
        · rcases List.mem_map.mp hmem with ⟨next, -, hnext⟩
          cases hnext
        · cases List.mem_singleton.mp hmem
          exact .stop hp hend

/-- A panic goes to the caller of a start or a stop under way if and only if it is
    the server's and was met in asking for its name. -/
theorem finished_panicked_iff {settings : Settings} {panic : Panic} (hs : Reachable settings s)
    (hact : s.act a = some (t, effects)) (hlt : call < s.calls.length) :
    .finished call (.panicked panic) ∈ effects ↔
      a = .nameForStart call (.error panic) ∨ a = .nameForStop call (.error panic) := by
  have hstep := step_of_act hact
  constructor
  · -- Of all ends of calls two are panics.
    intro hmem
    rcases hstep.callEnd hlt hmem with hdone | hend | ⟨-, hend⟩ | hend
    · cases hdone
    · cases hend with
      | nameless => exact Or.inl rfl
    · cases hend with
      | nameless => exact Or.inr rfl
    · cases hend
  · -- And a panic in one of these names ends the call with it.
    rintro (rfl | rfl)
    · cases hstep with
      | elsewhere h =>
          cases h with
          | startMoved _ hmove => cases hmove
          | startEnded _ hend =>
              cases hend with
              | nameless => exact List.mem_singleton.mpr rfl
          | statusMoved _ hmove => cases hmove
          | statusEnded _ hend => cases hend
      | stopMoved _ hmove => cases hmove
      | stopEnded _ hend => cases hend
    · cases hstep with
      | elsewhere h =>
          cases h with
          | startMoved _ hmove => cases hmove
          | startEnded _ hend => cases hend
          | statusMoved _ hmove => cases hmove
          | statusEnded _ hend => cases hend
      | stopMoved hp hmove =>
          cases hmove with
          | pass =>
              -- An accepted stop has a server to ask.
              have hsound := hs.sound call _ hp
              have hsome := hs.server_of_initialized hsound.1.1
              rw [hsound.2.1] at hsome
              cases hsome
      | stopEnded _ hend =>
          cases hend with
          | nameless =>
              rw [finishStop_eq]
              exact List.mem_append_right _ (List.mem_append_right _ (List.mem_singleton.mpr rfl))

/-- A task is seen to die if and only if its dependency panics when it is asked for
    its name. -/
theorem dead_seen_eq_nil_iff (hact : s.act a = some (t, effects)) :
    (s.seen call a effects).dead = [] ↔ ∀ place panic, a ≠ .runClose call place (.error panic) := by
  constructor
  · -- A panic in the name of a dependency kills its task, whatever the step was thought to be.
    rintro hnone place panic rfl
    rw [seen_eq s rfl] at hnone
    cases step_of_act hact with
    | elsewhere h =>
        cases h with
        | startMoved _ hmove => cases hmove
        | startEnded _ hend => cases hend
        | statusMoved _ hmove => cases hmove
        | statusEnded _ hend => cases hend
    | stopMoved hp hmove =>
        cases hmove with
        | died htask =>
            rw [seenWork_runClose_error hp htask] at hnone
            cases hnone
    | stopEnded _ hend => cases hend
  · -- Nothing else that is seen of a step is the end of a task without a name.
    intro hne
    by_cases hcaller : a.call? = some call
    · rw [seen_eq s hcaller]
      change ((s.seenWork call a).ended.filter fun e => e.2.isDead).map Prod.fst = []
      unfold seenWork
      split
      · rfl
      · rename_i i place panic _ _ _ _
        cases Option.some.inj hcaller
        exact absurd rfl (hne place panic)
      · split <;> rfl
      · rfl
      · rfl
      · rfl
    · rw [seen_eq_empty hcaller]
      rfl

/-- A task of a stop dies if and only if its dependency panics when it is asked for
    its name. -/
theorem dead_eq_nil_iff_of_run {actions : List (Action ι)}
    (h : s.run actions = some (t, effects)) :
    (s.record call actions).dead = [] ↔
      ∀ place panic, .runClose call place (.error panic) ∉ actions := by
  refine run_induction (fun actions _ => (s.record call actions).dead = [] ↔
    ∀ place panic, .runClose call place (.error panic) ∉ actions) ?_ ?_ h
  · exact ⟨fun _ => nofun, fun _ => rfl⟩
  · -- Nobody was dead before, and nobody dies in the last step.
    intro before u shown a v now _ hrun hu hact
    rw [record_append_singleton call hrun hact, StopRecord.dead_append, List.append_eq_nil_iff, hu,
      dead_seen_eq_nil_iff hact]
    constructor
    · rintro ⟨hbefore, hlast⟩ place panic hmem
      rcases List.mem_append.mp hmem with hmem | hmem
      · exact hbefore place panic hmem
      · exact hlast place panic (List.mem_singleton.mp hmem).symm
    · intro hall
      refine ⟨fun place panic hmem => ?_, fun place panic heq => ?_⟩
      · exact hall place panic (List.mem_append_left _ hmem)
      · exact hall place panic (List.mem_append_right _ (List.mem_singleton.mpr heq.symm))

/-- A stop that ends has attended to the closing of every dependency, and has asked
    each of them, unless a participant panicked when it was asked for its name. -/
theorem attended_of_run {settings : Settings} {u : System ι} {before : List (Action ι)}
    {shown last : List (Effect ι)} (hs : Reachable settings s)
    (hphase : s.stopPhase? call = some .entering) (hopen : s.roster.IsOpen)
    (h : s.run before = some (u, shown)) (hp : u.stopPhase? call = some p)
    (hact : u.act a = some (t, last)) (hended : t.calls[call]? = some (.ended o)) :
    (((s.record call (before ++ [a])).ended.map Prod.fst).Perm s.roster.dependencies ↔
      s.roster.dependencies = [] ∨ ∀ panic, a ≠ .nameForStop call (.error panic)) ∧
    ((s.record call (before ++ [a])).asked.Perm s.roster.dependencies ↔
      s.roster.dependencies = [] ∨ (∀ panic, a ≠ .nameForStop call (.error panic)) ∧
        ∀ place panic, .runClose call place (.error panic) ∉ before ++ [a]) := by
  have hreach : Reachable settings u := hs.run h
  have hrun : s.run (before ++ [a]) = some (t, shown ++ last) :=
    run_append_singleton.mpr ⟨u, shown, last, h, hact, rfl⟩
  rcases (records_of_run hs hphase hopen h).2 p hp with ⟨hin, hroster, hrecords⟩
  rcases (step_of_act hact).stopEnd hreach.gated hp hin hended with ⟨now, hend, -, heffects⟩
  by_cases hname : ∀ panic, a ≠ .nameForStop call (.error panic)
  · -- The stop has come to its report, which tells of every dependency.
    have hreported := hend.reported hopen (hreach.sound call p hp) hroster hname hrecords
    rw [← heffects, ← record_append_singleton call h hact] at hreported
    rcases hreported with ⟨name, result, hreported⟩
    refine ⟨iff_of_true hreported.ended (Or.inr hname), ?_⟩
    rw [hreported.asked_iff, dead_eq_nil_iff_of_run hrun]
    exact or_congr_right (and_iff_right hname).symm
  · -- Nothing has come to closing, so only no dependencies are all of them.
    have hnone : (s.record call (before ++ [a])).ended = [] ∧
        (s.record call (before ++ [a])).asked = [] := by
      push Not at hname
      rcases hname with ⟨panic, rfl⟩
      rw [record_append_singleton call h hact, heffects, seen_eq u rfl, askedIn_append,
        askedIn_finishStop]
      cases hend with
      | nameless =>
          rw [hrecords]
          exact ⟨rfl, rfl⟩
    rw [hnone.1, hnone.2, List.map_nil, List.nil_perm]
    exact ⟨(or_iff_left hname).symm, (or_iff_left fun hall => hname hall.1).symm⟩

/-- What an accepted stop does for its dependencies. The stop is accepted as it is
    in `s`. -/
structure Attends (s : System ι) (call : Nat) : Prop where
  /-- It can always be brought to its end by its own steps, whatever its participants
      do, if only the server tells its name. -/
  ends : ∀ before u shown p, s.run before = some (u, shown) → u.stopPhase? call = some p →
    ∀ b : Behaviour, ∃ more v later o, (∀ a ∈ more, a.call? = some call ∧ b.Allows a) ∧
      u.run more = some (v, later) ∧ v.calls[call]? = some (.ended o)
  /-- At its end the closing of every dependency was attended to, unless the server
      panicked when it was asked for its name. -/
  closings : ∀ before u shown p a t last o, s.run before = some (u, shown) →
    u.stopPhase? call = some p → u.act a = some (t, last) → t.calls[call]? = some (.ended o) →
    (((s.record call (before ++ [a])).ended.map Prod.fst).Perm s.roster.dependencies ↔
      s.roster.dependencies = [] ∨ ∀ panic, a ≠ .nameForStop call (.error panic))
  /-- And it was asked to close, unless a dependency panicked like this. -/
  asked : ∀ before u shown p a t last o, s.run before = some (u, shown) →
    u.stopPhase? call = some p → u.act a = some (t, last) → t.calls[call]? = some (.ended o) →
    ((s.record call (before ++ [a])).asked.Perm s.roster.dependencies ↔
      s.roster.dependencies = [] ∨ (∀ panic, a ≠ .nameForStop call (.error panic)) ∧
        ∀ place panic, .runClose call place (.error panic) ∉ before ++ [a])

/-- A panic gets through to the caller of a start or a stop, strands a service that
    was started, and keeps an accepted stop from its closings exactly where the
    server panics when it is asked for its name. No other panic does any of this.

    To stop, to close and to tell the status are asynchronous: asking for one gives
    only a body, which runs, and panics, when it is polled, and that is inside the
    guard. A participant that does some of the work by hand before there is a body,
    and panics there, is outside the model. -/
theorem panics_get_through {settings : Settings} {actions : List (Action ι)}
    (h : (System.initial settings).run actions = some (s, effects)) :
    (∀ call a t now panic, call < s.calls.length → s.act a = some (t, now) →
      (.finished call (.panicked panic) ∈ now ↔
        a = .nameForStart call (.error panic) ∨ a = .nameForStop call (.error panic))) ∧
    (s.Stranded ↔ ∃ call panic, .nameForStart call (.error panic) ∈ actions) ∧
    ∀ call, s.stopPhase? call = some .entering → s.roster.IsOpen → s.Attends call := by
  have hs : Reachable settings s := Reachable.initial.run h
  refine ⟨fun call a t now panic hlt hact => finished_panicked_iff hs hact hlt,
    stranded_iff_of_run h, fun call hphase hopen => ⟨?_, ?_, ?_⟩⟩
  · intro before u shown p hrun hp b
    rcases (records_of_run hs hphase hopen hrun).2 p hp with ⟨hin, -, -⟩
    exact exists_run_ended (hs.run hrun) hp hin b
  · intro before u shown p a t last o hrun hp hact hended
    exact (attended_of_run hs hphase hopen hrun hp hact hended).1
  · intro before u shown p a t last o hrun hp hact hended
    exact (attended_of_run hs hphase hopen hrun hp hact hended).2

/-- A dependency that panics when it is asked for its name is not asked to close,
    but attended to, and the service has its server. -/
theorem panics_get_through_mute_dependency :
    let before : List (Action Nat) := [.serve (fun _ _ => .ok "api") (some 0),
      .attach (fun _ _ => .ok "db") (some 1), .attach (fun _ _ => .ok "cache") (some 2),
      .begin .start, .enterStart 3 (.ok ()), .nameForStart 3 (.ok "api"), .announceStart 3,
      .launch 3, .begin .stop, .approach 4]
    let actions : List (Action Nat) := [.enterStop 4, .announceStop 4, .nameForStop 4 (.ok "api"),
      .endDraining 4 (.error .mute), .reportServer 4, .spawnCloses 4, .runClose 4 0 (.error .mute),
      .runClose 4 1 (.ok "cache"), .endClose 4 1 (.error .mute), .joinClose 4, .joinClose 4]
    ∃ s shown, (System.initial Settings.standard).run before = some (s, shown) ∧ ¬ s.Stranded ∧
      ((s.record 4 (actions ++ [.concludeStop 4])).ended.map Prod.fst).Perm [1, 2] ∧
      ¬ (s.record 4 (actions ++ [.concludeStop 4])).asked.Perm [1, 2] := by
  intro before actions
  have hrun : (System.initial Settings.standard).run before = some (_, _) := rfl
  rcases panics_get_through hrun with ⟨-, hstranded, hstop⟩
  have hattends := hstop 4 rfl ⟨rfl, rfl⟩
  refine ⟨_, _, hrun, fun hlost => ?_, ?_, fun hasked => ?_⟩
  · -- No start was told of a panic, so the server was launched.
    rcases hstranded.mp hlost with ⟨call, panic, hmem⟩
    simp only [before, List.mem_cons, reduceCtorEq, Action.nameForStart.injEq, List.not_mem_nil,
      and_false, or_false] at hmem
  · exact (hattends.closings actions _ _ _ _ _ _ _ rfl rfl rfl rfl).mpr (Or.inr nofun)
  · rcases (hattends.asked actions _ _ _ _ _ _ _ rfl rfl rfl rfl).mp hasked with hnone | ⟨-, hnone⟩
    · cases hnone
    · refine absurd ?_ (hnone 0 .mute)
      simp only [actions, List.mem_append, List.mem_cons, true_or, or_true]

/-- A server that cannot tell its name brings a panic to the callers of a start and
    of a stop. Its service is initialized and has never launched it, and the stop
    asks no dependency to close. -/
theorem mute_server_gets_through :
    let before : List (Action Nat) := [.serve (fun _ _ => .ok "api") (some 0),
      .attach (fun _ _ => .ok "db") (some 1), .begin .start, .enterStart 2 (.ok ()),
      .nameForStart 2 (.error .mute), .begin .stop, .approach 3]
    let actions : List (Action Nat) := [.enterStop 3, .announceStop 3, .nameForStop 3 (.error .mute)]
    ∃ s shown t last, (System.initial Settings.standard).run before = some (s, shown) ∧
      s.calls[2]? = some (.ended (.panicked .mute)) ∧ s.Stranded ∧
      s.stopPhase? 3 = some .entering ∧ s.roster.IsOpen ∧ s.roster.dependencies = [1] ∧
      s.run actions = some (t, last) ∧ t.calls[3]? = some (.ended (.panicked .mute)) ∧
      (s.record 3 actions).asked = [] := by
  intro before actions
  have hrun : (System.initial Settings.standard).run before = some (_, _) := rfl
  have hmem : .nameForStart 2 (.error .mute) ∈ before := by
    simp only [before, List.mem_cons, true_or, or_true]
  have hstranded := (stranded_iff_of_run hrun).mpr ⟨2, .mute, hmem⟩
  exact ⟨_, _, _, _, hrun, rfl, hstranded, rfl, ⟨rfl, rfl⟩, rfl, rfl, rfl, rfl⟩

end System

end Steward
