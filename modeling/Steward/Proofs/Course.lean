import Steward.Proofs.Gate
import Steward.Service

/-!
# The Course of a Call

What a step is to one call that is under way.

Calls overlap, and a step belongs to one of them at most. Whoever follows one
start, or one question for the health, through a run has to tell its own steps
from all the others, over and over again. For all the others there is one thing
to say, that the call is where it was (`Step.call_of_other`). Its own steps are
few, and its phase tells which of them is next. `StartView` and `StatusView` list
them, each with what it changes, so an invariant about a start or a question is
an invariant about these.

A call that has ended takes no step any more (`Step.caller_underway`).

## Main definitions

* `StartView`, `StatusView`: The steps from where a start, or a question for the
  health, stands.
* `System.follow`, `System.toldBy`: What is seen of the steps of one call, and what
  it publishes.

## Theorems

* `Step.call_of_other`: A call stands still while others take steps.
* `Step.startView`, `Step.statusView`: These are all the steps.
* `Step.caller_underway`: Only a call under way takes steps.
* `toldBy_of_ended`: A call that has ended tells nothing any more.
-/

namespace Steward

variable {ι : Type}

namespace System

variable {s t : System ι} {call : Nat} {effects : List (Effect ι)} {a : Action ι}

/-- A call stands still while others take steps, but for a stop that is let
    through the turnstile. -/
theorem Step.call_of_other (hg : s.Gated) (h : Step s a t effects) {c : Call ι}
    (hc : s.calls[call]? = some c) (hother : a.call? ≠ some call) :
    t.calls[call]? = some c ∨ c = .stopping .queued := by
  have hlt : call < s.calls.length := (List.getElem?_eq_some_iff.mp hc).1
  -- A step writes to the call that takes it, or puts a new one behind all others.
  have hset : ∀ {i : Nat} (c' : Call ι), a.call? = some i →
      (s.calls.set i c')[call]? = some c := by
    intro i c' hi
    have hne : i ≠ call := fun h => hother (h ▸ hi)
    rw [List.getElem?_set_ne hne, hc]
  have happend : ∀ c' : Call ι, (s.calls ++ [c'])[call]? = some c := by
    intro c'
    rw [List.getElem?_append_left hlt, hc]
  have hregister : ∀ kind outcome, (s.register kind outcome).1.calls[call]? = some c := by
    rintro kind ⟨outcome, roster⟩
    cases outcome <;> exact happend _
  cases h with
  | elsewhere h =>
      cases h with
      | serve | attach => exact Or.inl (hregister _ _)
      | announceRegistered _ => exact Or.inl (hset _ rfl)
      | begin => exact Or.inl (happend _)
      | runServer _ | endServer _ | hear => exact Or.inl hc
      | startAdmitted _ _ | launched _ | statusEntered _ => exact Or.inl (hset _ rfl)
      | startMoved _ hmove => exact Or.inl (hset _ hmove.plain.1)
      | startEnded _ hend => exact Or.inl (hset _ hend.plain.1)
      | statusMoved _ hmove => exact Or.inl (hset _ hmove.plain.1)
      | statusEnded _ hend => exact Or.inl (hset _ hend.plain.1)
  | approached _ => exact Or.inl (hset _ rfl)
  | stopMoved _ hmove => exact Or.inl (hset _ hmove.caller)
  | @stopEnded other p _ _ o hp hend =>
      rw [finishStop_eq]
      dsimp only
      cases hhead : s.turnstile.waiting.head? with
      | none => exact Or.inl (hset _ hend.caller)
      | some next =>
          -- The first in line is let through, and no other call is touched.
          by_cases hnext : next = call
          · rcases hg.of_head? hp hend.isInside hhead with ⟨-, hqueued⟩
            rw [hnext, stopPhase?_eq_some, hc, Option.some.injEq] at hqueued
            exact Or.inr hqueued
          · dsimp only
            rw [List.getElem?_set_ne hnext]
            exact Or.inl (hset _ hend.caller)

/-- An action has one caller, which is in one phase. -/
theorem eq_of_caller {i : Nat} {c c' : Call ι} (hcall : a.call? = some call)
    (hc : s.calls[call]? = some c) (hi : s.calls[i]? = some c') (hai : a.call? = some i) :
    i = call ∧ c' = c := by
  rw [hcall, Option.some.injEq] at hai
  rw [← hai, hc, Option.some.injEq] at hi
  exact ⟨hai.symm, hi.symm⟩

/-- Only a call under way takes steps. -/
theorem Step.caller_underway (h : Step s a t effects) (hcall : a.call? = some call) :
    ∀ o, s.calls[call]? ≠ some (.ended o) := by
  have hself : ∀ {i : Nat} {c : Call ι}, s.calls[i]? = some c → (∀ o, c ≠ .ended o) →
      a.call? = some i → ∀ o, s.calls[call]? ≠ some (.ended o) := by
    intro i c hc hunder hi o hended
    rw [hcall, Option.some.injEq] at hi
    rw [hi, hc, Option.some.injEq] at hended
    exact hunder o hended
  -- Every step with a caller finds it in some phase, and to have ended is none.
  cases h with
  | elsewhere h =>
      cases h with
      | serve | attach | begin | runServer _ | endServer _ | hear => cases hcall
      | announceRegistered hc => exact hself hc nofun rfl
      | startAdmitted hp _ => exact hself (startPhase?_eq_some.mp hp) nofun rfl
      | launched hp => exact hself (startPhase?_eq_some.mp hp) nofun rfl
      | startMoved hp hmove => exact hself (startPhase?_eq_some.mp hp) nofun hmove.plain.1
      | startEnded hp hend => exact hself (startPhase?_eq_some.mp hp) nofun hend.plain.1
      | statusEntered hp => exact hself (statusPhase?_eq_some.mp hp) nofun rfl
      | statusMoved hp hmove => exact hself (statusPhase?_eq_some.mp hp) nofun hmove.plain.1
      | statusEnded hp hend => exact hself (statusPhase?_eq_some.mp hp) nofun hend.plain.1
  | approached hp => exact hself (stopPhase?_eq_some.mp hp) nofun rfl
  | stopMoved hp hmove => exact hself (stopPhase?_eq_some.mp hp) nofun hmove.caller
  | stopEnded hp hend => exact hself (stopPhase?_eq_some.mp hp) nofun hend.caller

/-- A call that has ended stays so. -/
theorem Step.ended_stays (hg : s.Gated) (h : Step s a t effects) {o : Outcome}
    (hended : s.calls[call]? = some (.ended o)) : t.calls[call]? = some (.ended o) := by
  have hother : a.call? ≠ some call := fun hcall => h.caller_underway hcall o hended
  rcases h.call_of_other hg hended hother with hstays | hqueued
  · exact hstays
  · cases hqueued

theorem publishedIn_append (first second : List (Effect ι)) :
    publishedIn (first ++ second) = publishedIn first ++ publishedIn second :=
  List.filterMap_append

/-- The steps from where a start stands: those that others take, and its own. -/
inductive StartView (s : System ι) (call : Nat) (p : StartPhase ι) (a : Action ι)
    (t : System ι) (effects : List (Effect ι)) : Prop where
  | beside (hother : a.call? ≠ some call) (hphase : t.startPhase? call = some p)
  | admitted {listening : Except String Unit} {server : ι} {roster : Roster ι}
      (hp : p = .entering) (ha : a = .enterStart call listening)
      (haccept : s.roster.admitStart s.settings.signals listening = .ok (server, roster))
      (ht : t = { s with roster }.setStart call (.admitted server)) (hquiet : effects = [])
  | launched {server : ι} {name : String} (hp : p = .announced server name)
      (ha : a = .launch call)
      (ht : t = { s with
        serverTask := .spawned s.taskCount server
        taskCount := s.taskCount + 1 }.setStart call (.waiting name false))
      (hquiet : effects = [.spawned .server])
  | move {q : StartPhase ι} (hmove : StartMove s call p a effects q) (ht : t = s.setStart call q)
  | ending {shown : List (Effect ι)} {o : Outcome} (hend : StartEnd s call p a shown o)
      (ht : t = s.setCall call (.ended o)) (heffects : effects = shown ++ [.finished call o])

theorem Step.startView (hg : s.Gated) (h : Step s a t effects) {p : StartPhase ι}
    (hp : s.startPhase? call = some p) : StartView s call p a t effects := by
  have hc := startPhase?_eq_some.mp hp
  by_cases hcall : a.call? = some call
  · -- A step of this call finds it in the phase of a start.
    have hsame : ∀ {i : Nat} {c : Call ι}, s.calls[i]? = some c → a.call? = some i →
        i = call ∧ c = .starting p := eq_of_caller hcall hc
    cases h with
    | elsewhere h =>
        cases h with
        | serve | attach | begin | runServer _ | endServer _ | hear => cases hcall
        | announceRegistered hi => cases (hsame hi rfl).2
        | startAdmitted hq haccept =>
            rcases hsame (startPhase?_eq_some.mp hq) rfl with ⟨rfl, heq⟩
            exact .admitted (Call.starting.inj heq).symm rfl haccept rfl rfl
        | launched hq =>
            rcases hsame (startPhase?_eq_some.mp hq) rfl with ⟨rfl, heq⟩
            exact .launched (Call.starting.inj heq).symm rfl rfl rfl
        | startMoved hq hmove =>
            rcases hsame (startPhase?_eq_some.mp hq) hmove.plain.1 with ⟨rfl, heq⟩
            cases heq
            exact .move hmove rfl
        | startEnded hq hend =>
            rcases hsame (startPhase?_eq_some.mp hq) hend.plain.1 with ⟨rfl, heq⟩
            cases heq
            exact .ending hend rfl rfl
        | statusEntered hq => cases (hsame (statusPhase?_eq_some.mp hq) rfl).2
        | statusMoved hq hmove => cases (hsame (statusPhase?_eq_some.mp hq) hmove.plain.1).2
        | statusEnded hq hend => cases (hsame (statusPhase?_eq_some.mp hq) hend.plain.1).2
    | approached hq => cases (hsame (stopPhase?_eq_some.mp hq) rfl).2
    | stopMoved hq hmove => cases (hsame (stopPhase?_eq_some.mp hq) hmove.caller).2
    | stopEnded hq hend => cases (hsame (stopPhase?_eq_some.mp hq) hend.caller).2
  · -- Others can only let a call through, and a start does not wait in line.
    rcases h.call_of_other hg hc hcall with hstays | hqueued
    · exact .beside hcall (startPhase?_eq_some.mpr hstays)
    · cases hqueued

/-- The steps from where a question for the health stands: those that others take,
    and its own. -/
inductive StatusView (s : System ι) (call : Nat) (p : StatusPhase ι) (a : Action ι)
    (t : System ι) (effects : List (Effect ι)) : Prop where
  | beside (hother : a.call? ≠ some call) (hphase : t.statusPhase? call = some p)
  | entered (hp : p = .entering) (ha : a = .enterStatus call)
      (ht : t = { s with
          taskCount := s.taskCount + (s.newTasks s.roster.participants).length }.setStatus call
        (.probing (s.newTasks s.roster.participants) {} {}))
      (hquiet : effects = spawnEffects call (s.newTasks s.roster.participants))
  | move {q : StatusPhase ι} (hmove : StatusMove call p a effects q)
      (ht : t = s.setStatus call q)
  | ending {shown : List (Effect ι)} {o : Outcome} (hend : StatusEnd call p a shown o)
      (ht : t = s.setCall call (.ended o)) (heffects : effects = shown ++ [.finished call o])

theorem Step.statusView (hg : s.Gated) (h : Step s a t effects) {p : StatusPhase ι}
    (hp : s.statusPhase? call = some p) : StatusView s call p a t effects := by
  have hc := statusPhase?_eq_some.mp hp
  by_cases hcall : a.call? = some call
  · -- A step of this call finds it in the phase of a question.
    have hsame : ∀ {i : Nat} {c : Call ι}, s.calls[i]? = some c → a.call? = some i →
        i = call ∧ c = .checking p := eq_of_caller hcall hc
    cases h with
    | elsewhere h =>
        cases h with
        | serve | attach | begin | runServer _ | endServer _ | hear => cases hcall
        | announceRegistered hi => cases (hsame hi rfl).2
        | startAdmitted hq _ => cases (hsame (startPhase?_eq_some.mp hq) rfl).2
        | launched hq => cases (hsame (startPhase?_eq_some.mp hq) rfl).2
        | startMoved hq hmove => cases (hsame (startPhase?_eq_some.mp hq) hmove.plain.1).2
        | startEnded hq hend => cases (hsame (startPhase?_eq_some.mp hq) hend.plain.1).2
        | statusEntered hq =>
            rcases hsame (statusPhase?_eq_some.mp hq) rfl with ⟨rfl, heq⟩
            exact .entered (Call.checking.inj heq).symm rfl rfl rfl
        | statusMoved hq hmove =>
            rcases hsame (statusPhase?_eq_some.mp hq) hmove.plain.1 with ⟨rfl, heq⟩
            cases heq
            exact .move hmove rfl
        | statusEnded hq hend =>
            rcases hsame (statusPhase?_eq_some.mp hq) hend.plain.1 with ⟨rfl, heq⟩
            cases heq
            exact .ending hend rfl rfl
    | approached hq => cases (hsame (stopPhase?_eq_some.mp hq) rfl).2
    | stopMoved hq hmove => cases (hsame (stopPhase?_eq_some.mp hq) hmove.caller).2
    | stopEnded hq hend => cases (hsame (stopPhase?_eq_some.mp hq) hend.caller).2
  · -- Others can only let a call through, and a question does not wait in line.
    rcases h.call_of_other hg hc hcall with hstays | hqueued
    · exact .beside hcall (statusPhase?_eq_some.mpr hstays)
    · cases hqueued

section Follow

variable {α : Type} (look : System ι → Action ι → List (Effect ι) → List α)

/-- What an observer collects along a run who looks at the steps of one call only. -/
def follow (look : System ι → Action ι → List (Effect ι) → List α) (call : Nat) (s : System ι)
    (actions : List (Action ι)) : List α :=
  s.observe (fun s a effects => if a.call? = some call then look s a effects else []) actions

variable {before : List (Action ι)} {shown : List (Effect ι)} {u : System ι}

theorem follow_own (hrun : s.run before = some (t, shown)) (hact : t.act a = some (u, effects))
    (hown : a.call? = some call) :
    s.follow look call (before ++ [a]) = s.follow look call before ++ look t a effects := by
  rw [follow, observe_append_singleton _ hrun hact, if_pos hown, follow]

theorem follow_other (hrun : s.run before = some (t, shown)) (hact : t.act a = some (u, effects))
    (hother : a.call? ≠ some call) :
    s.follow look call (before ++ [a]) = s.follow look call before := by
  rw [follow, observe_append_singleton _ hrun hact, if_neg hother, List.append_nil, follow]

/-- What a call publishes in a run. -/
def toldBy (s : System ι) (call : Nat) (actions : List (Action ι)) : List Notice :=
  s.follow (fun _ _ effects => publishedIn effects) call actions

/-- A call that has ended stays so, and tells nothing any more. -/
theorem toldBy_of_ended {settings : Settings} {o : Outcome} {actions : List (Action ι)}
    (hs : Reachable settings s) (hended : s.calls[call]? = some (.ended o))
    (hrun : s.run actions = some (t, effects)) :
    s.toldBy call actions = [] ∧ t.calls[call]? = some (.ended o) := by
  refine run_induction (fun actions t => s.toldBy call actions = [] ∧
    t.calls[call]? = some (.ended o)) ⟨rfl, hended⟩ ?_ hrun
  rintro front v shown a w last - hfront ⟨hquiet, hv⟩ hact
  have hstep := step_of_act hact
  have hother : a.call? ≠ some call := fun hcall => hstep.caller_underway hcall o hv
  rw [toldBy, follow_other _ hfront hact hother]
  exact ⟨hquiet, hstep.ended_stays (hs.run hfront).gated hv⟩

end Follow

end System

end Steward
