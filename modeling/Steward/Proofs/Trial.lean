import Steward.Proofs.Ending
import Steward.Proofs.Enrolment
import Steward.Proofs.Run
import Steward.Rehearsal.StandIn
import Mathlib.Logic.Function.Basic

/-!
# Trying a Service Out

A service whose stops are answered by stand-ins.

A run of a system takes every answer of a participant from outside, so it says nothing
of what the answers have to do with each other. A stand-in remembers: what it answers
depends on how often it was asked. A `Trial` is a system together with the stand-ins for
its participants. Whatever an action says that a participant answers to a stop, in a
trial it answers what its stand-in does, and a stand-in that is done with it has used up
one failure. Everything else is left to the action, also the order of the steps, so the
runs of a trial are all the runs of the system in which stops meet these stand-ins.

A trial keeps in mind which stops it has let pass since the service was initialized.
Nothing depends on that. It is what the stops are counted by, and no stop comes to its
end without being counted (`Trial.mem_passed_of_run`).

What one stop needs from others is that they leave the turnstile. A stop that has passed
it can be brought to its end by its own steps, as `System.exists_run_ended` says of any
answers, and so can then the next, up to the last in line. So in a trial no stop waits
forever for want of a step (`Trial.exists_run_ended`).

## Main definitions

* `Trial`: A system and the stand-ins for its participants.
* `Trial.prompt`: An action with the answers of the stand-ins.
* `Trial.act`: A step of a trial.
* `Trial.Minds`: A stop has yet to pass, or is among those that have.

## Theorems

* `Trial.step_of_act`: A step of a trial is one of its system.
* `Trial.reachable_of_run`: A trial comes to what its system can come to.
* `Trial.result_of_draining`, `Trial.result_of_closing`: What is answered is what a
  stand-in answers.
* `Trial.mem_passed_of_run`: Whoever has come to its end has passed.
* `Trial.exists_run_left`: A stop that has passed can leave the turnstile.
* `Trial.exists_run_ended`: Every stop can be brought to its end.
-/

namespace Steward.Rehearsal

variable {ι : Type}

/-- A service with stand-ins for its participants. -/
structure Trial (ι : Type) where
  system : System ι
  cast : ι → StandIn
  /-- The stops that have been accepted or refused since the service is initialized. -/
  passed : List Nat := []

namespace Trial

/-- A service to which no call was made, with stand-ins for its participants. -/
def begin (settings : Settings) (cast : ι → StandIn) : Trial ι :=
  { system := .initial settings, cast }

/-- The stand-in that a stop asks for its name or waits for to stop. -/
def stopping? (t : Trial ι) (call : Nat) : Option StandIn :=
  match t.system.stopPhase? call with
  | some (.announced (some server) _) | some (.draining server _ _) => some (t.cast server)
  | _ => none

/-- The stand-in that a stop closes at a place. -/
def closing? (t : Trial ι) (call place : Nat) : Option StandIn :=
  match t.system.stopPhase? call with
  | some (.closing tasks _ _) => tasks[place]?.map fun task => t.cast task.who
  | _ => none

/-- An action with the answers that the stand-ins give to a stop. -/
def prompt (t : Trial ι) : Action ι → Action ι
  | .nameForStop call answer =>
    .nameForStop call ((t.stopping? call).elim answer fun s => .ok s.name)
  | .endDraining call result =>
    .endDraining call ((t.stopping? call).elim result StandIn.stopResult)
  | .runClose call place answer =>
    .runClose call place ((t.closing? call place).elim answer fun s => .ok s.name)
  | .endClose call place result =>
    .endClose call place ((t.closing? call place).elim result StandIn.closeResult)
  | a => a

/-- The stop that is accepted or refused by an action, if the service is initialized. -/
def passing (t : Trial ι) : Action ι → List Nat
  | .enterStop call =>
    match t.system.stopPhase? call, t.system.roster.initialized with
    | some .entering, true => [call]
    | _, _ => []
  | _ => []

section Act

variable [DecidableEq ι]

/-- The stand-ins after an effect. Whoever is done with stopping or closing was asked
    once more. -/
def heed (cast : ι → StandIn) : Effect ι → ι → StandIn
  | .returned .stop who => Function.update cast who (cast who).stop
  | .returned .close who => Function.update cast who (cast who).close
  | _ => cast

/-- Something happens in a trial, if it can. -/
def act (t : Trial ι) (a : Action ι) : Option (Trial ι × List (Effect ι)) :=
  (t.system.act (t.prompt a)).map fun (system, effects) =>
    ({ system, cast := effects.foldl heed t.cast, passed := t.passed ++ t.passing a }, effects)

end Act

variable {t u : Trial ι} {a : Action ι} {effects : List (Effect ι)} {call : Nat}
  {p q : StopPhase ι} {settings : Settings} {cast : ι → StandIn}

/-- What stand-ins answer is not changed by asking them again. -/
theorem prompt_prompt (t : Trial ι) (a : Action ι) : t.prompt (t.prompt a) = t.prompt a := by
  cases a with
  | nameForStop call answer | endDraining call result =>
      simp only [prompt]
      cases t.stopping? call <;> rfl
  | runClose call place answer | endClose call place result =>
      simp only [prompt]
      cases t.closing? call place <;> rfl
  | _ => rfl

theorem call?_prompt (t : Trial ι) (a : Action ι) : (t.prompt a).call? = a.call? := by
  cases a <;> rfl

theorem givesWay_prompt (t : Trial ι) (a : Action ι) : (t.prompt a).givesWay = a.givesWay := by
  cases a <;> rfl

theorem passing_prompt (t : Trial ι) (a : Action ι) : t.passing (t.prompt a) = t.passing a := by
  cases a <;> rfl

/-- Whether an action is possible does not depend on an answer. -/
theorem isSome_act_prompt (t : Trial ι) (h : (t.system.act a).isSome = true) :
    (t.system.act (t.prompt a)).isSome = true := by
  cases a with
  | nameForStop call answer =>
      -- These four actions carry an answer. Whether the call can go on is decided by its
      -- phase, and never by the answer.
      simp only [prompt, System.act, System.nameForStop] at h ⊢
      split at h
      · rfl
      · cases (t.stopping? call).elim answer fun s => .ok s.name <;> rfl
      · cases h
  | endDraining call result =>
      simp only [prompt, System.act, System.endDraining] at h ⊢
      split at h
      · rfl
      · cases h
  | runClose call place answer =>
      simp only [prompt, System.act, System.runClose] at h ⊢
      split at h
      · split at h
        · cases (t.closing? call place).elim answer fun s => .ok s.name <;> rfl
        · cases h
      · cases h
  | endClose call place result =>
      simp only [prompt, System.act, System.endClose] at h ⊢
      split at h
      · split at h
        · rfl
        · cases h
      · cases h
  | _ => exact h

section Answers

variable {server who : ι} {deps : List ι} {name : String} {tasks : List (Task ι)}
  {tray : Tray Closing} {causes : List Cause} {place number : Nat} {state : TaskState}
  {result : Return} {panic : Panic}

/-- A stand-in has a name. -/
theorem prompt_ne_nameless (hp : t.system.stopPhase? call = some (.announced (some server) deps)) :
    t.prompt (.nameForStop call (.error panic)) ≠ .nameForStop call (.error panic) := by
  have hasked : t.stopping? call = some (t.cast server) := by simp only [stopping?, hp]
  rw [prompt, hasked]
  nofun

theorem prompt_ne_died (hp : t.system.stopPhase? call = some (.closing tasks tray causes))
    (htask : tasks[place]? = some ⟨number, who, state⟩) :
    t.prompt (.runClose call place (.error panic)) ≠ .runClose call place (.error panic) := by
  have hasked : t.closing? call place = some (t.cast who) := by
    simp only [closing?, hp, htask, Option.map_some]
  rw [prompt, hasked]
  nofun

/-- What is answered where nothing is changed is what the stand-in answers. -/
theorem result_of_draining (hp : t.system.stopPhase? call = some (.draining server name deps))
    (h : t.prompt (.endDraining call result) = .endDraining call result) :
    result = (t.cast server).stopResult := by
  have hasked : t.stopping? call = some (t.cast server) := by simp only [stopping?, hp]
  rw [prompt, hasked] at h
  exact (Action.endDraining.inj h).2.symm

theorem result_of_closing (hp : t.system.stopPhase? call = some (.closing tasks tray causes))
    (htask : tasks[place]? = some ⟨number, who, state⟩)
    (h : t.prompt (.endClose call place result) = .endClose call place result) :
    result = (t.cast who).closeResult := by
  have hasked : t.closing? call place = some (t.cast who) := by
    simp only [closing?, hp, htask, Option.map_some]
  rw [prompt, hasked] at h
  exact (Action.endClose.inj h).2.2.symm

end Answers

section Passing

/-- Only a stop that comes from the turnstile is let pass. -/
theorem passing_eq_nil (h : ∀ call, t.system.stopPhase? call = some .entering →
    a.call? ≠ some call) : t.passing a = [] := by
  cases a with
  | enterStop call =>
      simp only [passing]
      split
      · rename_i hp hinit
        exact absurd rfl (h call hp)
      · rfl
  | _ => rfl

theorem passing_of_uninitialized (hinit : t.system.roster.initialized = false) :
    t.passing a = [] := by
  cases a with
  | enterStop call =>
      simp only [passing, hinit]
      split
      · rename_i hp htrue
        cases htrue
      · rfl
  | _ => rfl

theorem passing_of_stopMove (hp : t.system.stopPhase? call = some p)
    (hinit : t.system.roster.initialized = true) (h : System.StopMove t.system call p a effects q) :
    t.passing a = if p.isAccepted then [] else [call] := by
  cases h with
  | accept haccept =>
      simp only [passing, hp, hinit]
      rfl
  | _ => rfl

theorem passing_of_stopEnd {o : Outcome} (hp : t.system.stopPhase? call = some p)
    (hinit : t.system.roster.initialized = true) (h : System.StopEnd t.system call p a effects o) :
    t.passing a = if p.isAccepted then [] else [call] := by
  cases h with
  | refused hrefused =>
      simp only [passing, hp, hinit]
      rfl
  | _ => rfl

end Passing

section Runs

variable [DecidableEq ι]

/-- A step of a trial is a step of its system with the answers of the stand-ins. -/
theorem step_of_act (h : t.act a = some (u, effects)) :
    System.Step t.system (t.prompt a) u.system effects ∧
      u.cast = effects.foldl heed t.cast ∧ u.passed = t.passed ++ t.passing (t.prompt a) := by
  rw [act, Option.map_eq_some_iff] at h
  rcases h with ⟨⟨system, shown⟩, hact, h⟩
  rcases Prod.mk.inj h with ⟨rfl, rfl⟩
  exact ⟨System.step_of_act hact, rfl, by rw [passing_prompt]⟩

theorem reachable_of_act (hs : Reachable settings t.system) (h : t.act a = some (u, effects)) :
    Reachable settings u.system := by
  rw [act, Option.map_eq_some_iff] at h
  rcases h with ⟨⟨system, shown⟩, hact, h⟩
  rcases Prod.mk.inj h with ⟨rfl, rfl⟩
  exact hs.act hact

theorem reachable_of_run {actions : List (Action ι)} (hs : Reachable settings t.system)
    (h : runOf act t actions = some (u, effects)) : Reachable settings u.system :=
  runOf_induction (fun _ u _ => Reachable settings u.system) hs
    (fun _ _ _ _ _ _ _ _ hu hact => reachable_of_act hu hact) h

theorem leadsTo_of_run {actions : List (Action ι)} (h : runOf act t actions = some (u, effects)) :
    t.system.roster.LeadsTo u.system.roster :=
  runOf_induction (fun _ u _ => t.system.roster.LeadsTo u.system.roster) (.refl _)
    (fun _ _ _ _ _ _ _ _ hu hact => hu.trans (step_of_act hact).1.leadsTo) h

/-- A stop has yet to pass, or is among those that have. -/
def Minds (t : Trial ι) (call : Nat) : Prop :=
  (∃ p, t.system.stopPhase? call = some p ∧ p.isAccepted = false) ∨ call ∈ t.passed

/-- No stop comes to its end unnoticed, once the service is initialized. -/
theorem minds_of_act (hs : Reachable settings t.system)
    (hinit : t.system.roster.initialized = true) (hmind : t.Minds call)
    (h : t.act a = some (u, effects)) : u.Minds call := by
  rcases step_of_act h with ⟨hstep, -, hpassed⟩
  rcases hmind with ⟨p, hp, hnot⟩ | hmem
  · rcases u with ⟨system, now, passed⟩
    dsimp only at hstep hpassed
    subst hpassed
    generalize t.prompt a = a at hstep
    -- Whoever takes a step towards its end has passed with that.
    have hpasses : t.passing a = (if p.isAccepted then [] else [call]) →
        call ∈ t.passed ++ t.passing a := by
      intro hpassing
      rw [hpassing, hnot]
      exact List.mem_append_right _ (List.mem_singleton_self call)
    cases hstep with
    -- Elsewhere, and at the turnstile, it waits as before.
    | elsewhere hother => exact Or.inl ⟨p, hother.apart.stays call p hp, hnot⟩
    | @approached other harrives =>
        refine Or.inl ?_
        dsimp only
        rw [System.stopPhase?_setStop harrives]
        split
        · refine ⟨_, rfl, ?_⟩
          split <;> rfl
        · exact ⟨p, hp, hnot⟩
    | @stopMoved other q _ _ _ hq hmove =>
        by_cases hsame : call = other
        · subst hsame
          rw [hp, Option.some.injEq] at hq
          subst hq
          exact Or.inr (hpasses (passing_of_stopMove hp hinit hmove))
        · refine Or.inl ⟨p, ?_, hnot⟩
          dsimp only
          rw [System.stopPhase?_setStop hq, if_neg hsame]
          exact hp
    | @stopEnded other q _ _ _ hq hend =>
        -- Another one that ends may let it in, and it is not accepted by that.
        by_cases hsame : call = other
        · subst hsame
          rw [hp, Option.some.injEq] at hq
          subst hq
          exact Or.inr (hpasses (passing_of_stopEnd hp hinit hend))
        · refine Or.inl ?_
          dsimp only
          rw [hs.gated.stopPhase?_finishStop hq hend.isInside, if_neg hsame]
          split
          · exact ⟨_, rfl, rfl⟩
          · exact ⟨p, hp, hnot⟩
  · rw [Minds, hpassed]
    exact Or.inr (List.mem_append_left _ hmem)

/-- A stop that has come to its end in an initialized service has passed. -/
theorem mem_passed_of_run {o : Outcome} {actions : List (Action ι)}
    (hs : Reachable settings t.system) (hinit : t.system.roster.initialized = true)
    (hmind : t.Minds call) (h : runOf act t actions = some (u, effects))
    (hended : u.system.calls[call]? = some (.ended o)) : call ∈ u.passed := by
  have hinv := runOf_induction (fun _ u _ => Reachable settings u.system ∧
    u.system.roster.initialized = true ∧ u.Minds call) ⟨hs, hinit, hmind⟩
    (fun _ _ _ _ _ _ _ _ ⟨hu, hinit, hmind⟩ hact => ⟨reachable_of_act hu hact,
      (step_of_act hact).1.leadsTo.initialized hinit, minds_of_act hu hinit hmind hact⟩) h
  rcases hinv with ⟨-, -, ⟨p, hp, -⟩ | hmem⟩
  · rw [System.stopPhase?_eq_some, hended] at hp
    cases hp
  · exact hmem

/-- The step that a stop takes which has passed the turnstile: it stays there and comes
    closer to its end, or it leaves. -/
theorem exists_act (hs : Reachable settings t.system) (hp : t.system.stopPhase? call = some p)
    (hin : p.isInside = true) : ∃ a u now, a.call? = some call ∧ t.act a = some (u, now) ∧
      ((∃ q, u.system.stopPhase? call = some q ∧ q.isInside = true ∧
          u.system.turnstile = t.system.turnstile ∧
          q.remaining u.system.roster.dependencies.length <
            p.remaining t.system.roster.dependencies.length) ∨
        (∃ o, u.system.calls[call]? = some (.ended o)) ∧
          u.system.turnstile = t.system.turnstile.leave) := by
  -- The system can go on whatever the answers are, so it can with those of the stand-ins.
  rcases System.exists_action hp hin ⟨"", .ok (.ok ()), fun _ => .ok "", fun _ => .ok (.ok ())⟩
    with ⟨a, hcall, -, hstays, hsome⟩
  rcases Option.isSome_iff_exists.mp (isSome_act_prompt t hsome) with ⟨⟨system, now⟩, hact⟩
  refine ⟨a, _, now, hcall, by rw [act, hact]; rfl, ?_⟩
  rw [← call?_prompt t] at hcall
  rw [← givesWay_prompt t] at hstays
  have hstep := System.step_of_act hact
  generalize t.prompt a = a at hcall hstays hstep
  dsimp only
  cases hstep with
  | elsewhere h => exact absurd hcall (h.apart.caller call p hp)
  | approached harrives =>
      -- It has passed the turnstile already.
      cases hcall
      rw [hp, Option.some.injEq] at harrives
      rw [harrives] at hin
      cases hin
  | stopMoved hp' hmove =>
      cases hmove.caller.symm.trans hcall
      rw [hp, Option.some.injEq] at hp'
      subst hp'
      refine Or.inl ⟨_, ?_, hmove.isInside.2, rfl, ?_⟩
      · rw [System.stopPhase?_setStop hp, if_pos rfl]
      · -- The measure looks at the roster, which keeps its dependencies.
        have hlt := hmove.remaining_lt hstays
        cases p <;> exact hlt
  | stopEnded hp' hend =>
      cases hend.caller.symm.trans hcall
      exact Or.inr ⟨⟨_, hs.gated.ended_finishStop hp hin⟩, System.turnstile_finishStop _ _ _⟩

/-- A stop that has passed the turnstile can be brought to its end by its own steps, and
    leaves the turnstile to the next. -/
theorem exists_run_left (hs : Reachable settings t.system)
    (hp : t.system.stopPhase? call = some p) (hin : p.isInside = true) :
    ∃ more u later, (∀ a ∈ more, a.call? = some call) ∧ runOf act t more = some (u, later) ∧
      (∃ o, u.system.calls[call]? = some (.ended o)) ∧
      u.system.turnstile = t.system.turnstile.leave := by
  -- The induction is on what remains of the stop.
  induction hn : p.remaining t.system.roster.dependencies.length using Nat.strongRecOn
      generalizing t p with
  | ind n ih =>
      rcases exists_act hs hp hin with
        ⟨a, u, now, hcall, hact, ⟨q, hq, hinq, hturnstile, hlt⟩ | ⟨hended, hturnstile⟩⟩
      · rw [hn] at hlt
        rcases ih _ hlt (reachable_of_act hs hact) hq hinq rfl with
          ⟨more, v, later, hmore, hrun, hended, hleft⟩
        refine ⟨a :: more, v, now ++ later, List.forall_mem_cons.mpr ⟨hcall, hmore⟩,
          runOf_cons_eq_some.mpr ⟨u, now, later, hact, hrun, rfl⟩, hended, ?_⟩
        rw [hleft, hturnstile]
      · exact ⟨[a], u, now ++ [], List.forall_mem_singleton.mpr hcall,
          runOf_cons_eq_some.mpr ⟨u, now, [], hact, rfl, rfl⟩, hended, hturnstile⟩

theorem exists_run_of_holder (hs : Reachable settings t.system)
    (hholder : t.system.turnstile.holder = some call) :
    ∃ more u later, (∀ a ∈ more, a.call? ≠ none) ∧ runOf act t more = some (u, later) ∧
      (∃ o, u.system.calls[call]? = some (.ended o)) ∧
      u.system.turnstile = t.system.turnstile.leave := by
  rcases (hs.gated.inside call).mp hholder with ⟨p, hp, hin⟩
  rcases exists_run_left hs hp hin with ⟨more, u, later, hmore, hrun, hended, hleft⟩
  refine ⟨more, u, later, fun a ha hnone => ?_, hrun, hended, hleft⟩
  rw [hmore a ha] at hnone
  cases hnone

/-- A stop that waits in line can be brought to its end after all that are before it. -/
theorem exists_run_of_waiting {place : Nat} (hs : Reachable settings t.system)
    (hplace : t.system.turnstile.waiting[place]? = some call) :
    ∃ more u later, (∀ a ∈ more, a.call? ≠ none) ∧ runOf act t more = some (u, later) ∧
      ∃ o, u.system.calls[call]? = some (.ended o) := by
  -- The induction is on the place in the line: the holder comes to its
  -- end, and everybody moves up.
  induction place using Nat.strongRecOn generalizing t with
  | ind place ih =>
  cases hholder : t.system.turnstile.holder with
  | none =>
      -- The turnstile is not free while somebody waits.
      rw [hs.gated.wellFormed hholder] at hplace
      cases hplace
  | some other =>
      rcases exists_run_of_holder hs hholder with ⟨more, u, later, hmore, hrun, -, hleft⟩
      have hu := reachable_of_run hs hrun
      have hrest : ∃ more u' later, (∀ a ∈ more, a.call? ≠ none) ∧
          runOf act u more = some (u', later) ∧ ∃ o, u'.system.calls[call]? = some (.ended o) := by
        cases place with
        | zero =>
            have hnext : u.system.turnstile.holder = some call := by
              rw [hleft, Turnstile.leave, List.head?_eq_getElem?, hplace]
            rcases exists_run_of_holder hu hnext with ⟨more', v, later', hmore', hrun', hended, -⟩
            exact ⟨more', v, later', hmore', hrun', hended⟩
        | succ place =>
            refine ih place (Nat.lt_succ_self place) hu ?_
            rw [hleft, Turnstile.leave, List.getElem?_tail, hplace]
      rcases hrest with ⟨more', v, later', hmore', hrun', hended⟩
      exact ⟨more ++ more', v, later ++ later', List.forall_mem_append.mpr ⟨hmore, hmore'⟩,
        runOf_append hrun hrun', hended⟩

/-- A stop that has come to the turnstile can be brought to its end. -/
theorem exists_run_of_begun (hs : Reachable settings t.system)
    (hp : t.system.stopPhase? call = some p) (hne : p ≠ .arriving) :
    ∃ more u later, (∀ a ∈ more, a.call? ≠ none) ∧ runOf act t more = some (u, later) ∧
      ∃ o, u.system.calls[call]? = some (.ended o) := by
  cases hin : p.isInside with
  | true =>
      -- It is inside, or waits in line to be let in.
      rcases exists_run_of_holder hs (hs.gated.holder hp hin) with
        ⟨more, u, later, hmore, hrun, hended, -⟩
      exact ⟨more, u, later, hmore, hrun, hended⟩
  | false =>
      cases p with
      | arriving => exact absurd rfl hne
      | queued =>
          rcases List.getElem?_of_mem ((hs.gated.queued call).mpr hp) with ⟨place, hplace⟩
          exact exists_run_of_waiting hs hplace
      | _ => cases hin

/-- A stop can always come to the turnstile. -/
theorem exists_act_approach (hp : t.system.stopPhase? call = some .arriving) :
    ∃ u q, t.act (.approach call) = some (u, []) ∧ u.system.stopPhase? call = some q ∧
      q ≠ .arriving := by
  have hprompt : t.prompt (.approach call) = .approach call := rfl
  rw [act, hprompt, System.act, System.approach, hp]
  refine ⟨_, if t.system.turnstile.holder.isNone then .entering else .queued, rfl, ?_, ?_⟩
  · dsimp only
    rw [System.stopPhase?_setStop hp, if_pos rfl]
  · intro harriving
    split at harriving <;> cases harriving

/-- Every stop can be brought to its end by steps of the calls that are there already. -/
theorem exists_run_ended (hs : Reachable settings t.system)
    (hp : t.system.stopPhase? call = some p) :
    ∃ more u later, (∀ a ∈ more, a.call? ≠ none) ∧ runOf act t more = some (u, later) ∧
      ∃ o, u.system.calls[call]? = some (.ended o) := by
  by_cases harrives : p = .arriving
  · -- It has to come to the turnstile first.
    rw [harrives] at hp
    rcases exists_act_approach hp with ⟨u, q, hact, hq, hne⟩
    rcases exists_run_of_begun (reachable_of_act hs hact) hq hne with
      ⟨more, v, later, hmore, hrun, hended⟩
    exact ⟨.approach call :: more, v, [] ++ later,
      List.forall_mem_cons.mpr ⟨Option.some_ne_none call, hmore⟩,
      runOf_cons_eq_some.mpr ⟨u, [], later, hact, hrun, rfl⟩, hended⟩
  · exact exists_run_of_begun hs hp harrives

end Runs

end Trial

end Steward.Rehearsal
