import Steward.Proofs.Step

/-!
# Phases After a Step

What a step leaves of the phases of the calls.

A step changes the phase of one call, at most two when a stop hands the
turnstile on, and a registration or a new call comes behind all that were there.
The lookups of `System` go through the list of calls, so this comes down to one
fact about looking up in a list that was written to and one about a list that
has grown.

Most steps have nothing to do with stops. `Apart` says what that means: the
turnstile is untouched, every stop stays in its phase, no participant is stopped
or closed, and the roster stands still from the moment the service is
initialized. An invariant about stops is kept by all of these steps for the same
reason, and `StepElsewhere.apart` spares it the case analysis.

## Main definitions

* `Call.stopPhase?`: The phase of a call that is a stop.
* `Effect.isStopWork`: A participant is stopped or closed.
* `Effect.isPlain`: Neither that, nor does a call end.
* `System.Apart`: A step that has nothing to do with stops.

## Theorems

* `stopPhase?_set`, `stopPhase?_setStop`: One call goes to another phase.
* `stopPhase?_append`: A call comes.
* `StepElsewhere.apart`: A step that no stop takes is apart from stops.
-/

namespace Steward

variable {ι : Type}

/-- The phase of a call that is a stop. -/
def Call.stopPhase? : Call ι → Option (StopPhase ι)
  | .stopping p => some p
  | _ => none

/-- Whether an effect shows a participant at being stopped or closed. -/
def Effect.isStopWork : Effect ι → Bool
  | .invoked .stop _ | .invoked .close _ | .returned .stop _ | .returned .close _ => true
  | _ => false

/-- Whether an effect is neither that nor the end of a call. -/
def Effect.isPlain : Effect ι → Bool
  | .finished _ _ => false
  | e => !e.isStopWork

namespace Roster

theorem serve_of_initialized {r : Roster ι} {ask : Answers ι} {offered : Option ι}
    (h : r.initialized = true) : (r.serve ask offered).2 = r := by
  simp only [serve, h, if_true]

theorem attach_of_initialized {r : Roster ι} {ask : Answers ι} {offered : Option ι}
    (h : r.initialized = true) : (r.attach ask offered).2 = r := by
  simp only [attach, h, if_true]

end Roster

namespace System

variable {s t : System ι} {call : Nat} {effects : List (Effect ι)}

theorem stopPhase?_eq_bind (s : System ι) (i : Nat) :
    s.stopPhase? i = s.calls[i]?.bind Call.stopPhase? := by
  unfold stopPhase? Call.stopPhase?
  cases s.calls[i]? with
  | none => rfl
  | some c => cases c <;> rfl

/-- Looking up in a list in which one place was written to. The place is known to
    be there, so what was written is found. -/
theorem bind_getElem?_set {α β : Type} {l : List α} {call : Nat} {old : α} (f : α → Option β)
    (h : l[call]? = some old) (new : α) (i : Nat) :
    (l.set call new)[i]?.bind f = if i = call then f new else l[i]?.bind f := by
  have hlt : call < l.length := (List.getElem?_eq_some_iff.mp h).1
  by_cases hi : i = call
  · rw [if_pos hi, hi, List.getElem?_set_self hlt, Option.bind_some]
  · rw [if_neg hi, List.getElem?_set_ne (fun hc => hi hc.symm)]

theorem bind_getElem?_append {α β : Type} (f : α → Option β) (l : List α) (new : α) (i : Nat) :
    (l ++ [new])[i]?.bind f = if i = l.length then f new else l[i]?.bind f := by
  by_cases hi : i = l.length
  · rw [if_pos hi, hi, List.getElem?_concat_length, Option.bind_some]
  · rw [if_neg hi]
    -- Behind the last place there was nothing, nor is there now.
    by_cases hlt : i < l.length
    · rw [List.getElem?_append_left hlt]
    · have hlen : (l ++ [new]).length ≤ i := by
        rw [List.length_append, List.length_singleton]
        omega
      rw [List.getElem?_eq_none hlen, List.getElem?_eq_none (by omega)]

theorem stopPhase?_set {old new : Call ι} (h : s.calls[call]? = some old)
    (hcalls : t.calls = s.calls.set call new) (i : Nat) :
    t.stopPhase? i = if i = call then new.stopPhase? else s.stopPhase? i := by
  rw [stopPhase?_eq_bind, stopPhase?_eq_bind, hcalls, bind_getElem?_set _ h]

/-- A stop goes to another phase. The roster, the turnstile and the count of
    tasks are no matter. -/
theorem stopPhase?_setStop {p : StopPhase ι} (h : s.stopPhase? call = some p) (r : Roster ι)
    (turnstile : Turnstile) (n : Nat) (q : StopPhase ι) (i : Nat) :
    ({ s with roster := r, turnstile := turnstile, taskCount := n }.setStop call q).stopPhase? i =
      if i = call then some q else s.stopPhase? i := by
  have hset : ({ s with roster := r, turnstile := turnstile, taskCount := n }.setStop call q).calls =
      s.calls.set call (.stopping q) := rfl
  exact stopPhase?_set (stopPhase?_eq_some.mp h) hset i

theorem stopPhase?_append {new : Call ι} (hcalls : t.calls = s.calls ++ [new]) (i : Nat) :
    t.stopPhase? i = if i = s.calls.length then new.stopPhase? else s.stopPhase? i := by
  rw [stopPhase?_eq_bind, stopPhase?_eq_bind, hcalls, bind_getElem?_append]

/-- A step that has nothing to do with stops. One may begin, and wait to come to
    the turnstile. -/
structure Apart (s : System ι) (a : Action ι) (t : System ι) (effects : List (Effect ι)) :
    Prop where
  turnstile : t.turnstile = s.turnstile
  /-- Registrations are over once the service is initialized. -/
  roster : s.roster.initialized = true → t.roster = s.roster
  stays : ∀ call p, s.stopPhase? call = some p → t.stopPhase? call = some p
  comes : ∀ call p, t.stopPhase? call = some p →
    s.stopPhase? call = some p ∨ p = .arriving ∧ s.calls[call]? = none
  silent : ∀ e ∈ effects, e.isStopWork = false
  unfinished : ∀ call o, .finished call o ∈ effects → s.stopPhase? call = none
  caller : ∀ call p, s.stopPhase? call = some p → a.call? ≠ some call
  /-- No call is ever forgotten. -/
  grows : s.calls.length ≤ t.calls.length

/-- An effect that tells nothing of stops, and of no end but that of one call. -/
def Silent (call : Nat) : Effect ι → Prop
  | .finished i _ => i = call
  | e => e.isStopWork = false

theorem Silent.of_isPlain {e : Effect ι} (h : e.isPlain = true) : Silent call e := by
  cases e with
  | finished i o => cases h
  | invoked method who | returned method who => cases method <;> first | rfl | cases h
  | _ => rfl

theorem Silent.isStopWork {e : Effect ι} (h : Silent call e) : e.isStopWork = false := by
  cases e with
  | finished i o => rfl
  | _ => exact h

/-- A step is apart from stops if every call looks the same to it, seen as a
    stop, and the one it may end is none. -/
theorem apart_of_phases {a : Action ι} (hsame : ∀ i, t.stopPhase? i = s.stopPhase? i)
    (hgrows : s.calls.length ≤ t.calls.length) (hturnstile : t.turnstile = s.turnstile)
    (hroster : s.roster.initialized = true → t.roster = s.roster)
    (hcaller : ∀ i, a.call? = some i → s.stopPhase? i = none)
    (hnone : s.stopPhase? call = none) (hsilent : ∀ e ∈ effects, Silent call e) :
    Apart s a t effects := by
  refine ⟨hturnstile, hroster, ?_, ?_, fun e he => (hsilent e he).isStopWork, ?_, ?_, hgrows⟩
  · intro i p hp
    rw [hsame, hp]
  · intro i p hp
    exact Or.inl (by rw [← hsame, hp])
  · intro i o hfinished
    have hi : i = call := hsilent _ hfinished
    rw [hi, hnone]
  · intro i p hp hi
    rw [hcaller i hi] at hp
    cases hp

/-- A step is apart from stops if it changes one call that is none, and does not
    make it one. -/
theorem apart_of_set {a : Action ι} {old new : Call ι} (h : s.calls[call]? = some old)
    (hold : old.stopPhase? = none) (hnew : new.stopPhase? = none)
    (hcalls : t.calls = s.calls.set call new) (hturnstile : t.turnstile = s.turnstile)
    (hroster : s.roster.initialized = true → t.roster = s.roster) (hcall : a.call? = some call)
    (hsilent : ∀ e ∈ effects, Silent call e) : Apart s a t effects := by
  have hnone : s.stopPhase? call = none := by
    rw [stopPhase?_eq_bind, h, Option.bind_some, hold]
  have hlength : s.calls.length ≤ t.calls.length :=
    Nat.le_of_eq (by rw [hcalls, List.length_set])
  refine apart_of_phases (fun i => ?_) hlength hturnstile hroster (fun i hi => ?_) hnone hsilent
  · rw [stopPhase?_set h hcalls]
    by_cases hi : i = call
    · rw [if_pos hi, hnew, hi, hnone]
    · rw [if_neg hi]
  · rw [hcall, Option.some.injEq] at hi
    rw [← hi, hnone]

/-- A step is apart from stops if it makes a call that is none, or one that has
    just begun. -/
theorem apart_of_append {a : Action ι} {new : Call ι} (hcalls : t.calls = s.calls ++ [new])
    (hnew : ∀ p, new.stopPhase? = some p → p = .arriving)
    (hturnstile : t.turnstile = s.turnstile)
    (hroster : s.roster.initialized = true → t.roster = s.roster) (hcall : a.call? = none)
    (hsilent : ∀ e ∈ effects, Silent s.calls.length e) : Apart s a t effects := by
  have hlast : s.calls[s.calls.length]? = none := List.getElem?_eq_none (Nat.le_refl _)
  have hnone : s.stopPhase? s.calls.length = none := by
    rw [stopPhase?_eq_bind, hlast, Option.bind_none]
  refine ⟨hturnstile, hroster, ?_, ?_, fun e he => (hsilent e he).isStopWork, ?_, ?_, ?_⟩
  · intro i p hp
    -- The new call is at a place that was empty.
    have hi : i ≠ s.calls.length := by
      rintro rfl
      rw [hnone] at hp
      cases hp
    rw [stopPhase?_append hcalls, if_neg hi, hp]
  · intro i p hp
    rw [stopPhase?_append hcalls] at hp
    by_cases hi : i = s.calls.length
    · rw [if_pos hi] at hp
      exact Or.inr ⟨hnew p hp, by rw [hi, hlast]⟩
    · rw [if_neg hi] at hp
      exact Or.inl hp
  · -- A call that ends with this step is the new one, which was no stop before.
    intro i o hfinished
    have hi : i = s.calls.length := hsilent _ hfinished
    rw [hi, hnone]
  · intro i p _ hcaller
    rw [hcall] at hcaller
    cases hcaller
  · rw [hcalls, List.length_append]
    omega

theorem apart_of_calls_eq {a : Action ι} (hcalls : t.calls = s.calls)
    (hturnstile : t.turnstile = s.turnstile) (hroster : t.roster = s.roster)
    (hcall : a.call? = none) (hsilent : ∀ e ∈ effects, Silent s.calls.length e) :
    Apart s a t effects := by
  refine apart_of_phases (fun i => ?_) (hcalls ▸ Nat.le_refl _) hturnstile (fun _ => hroster)
    (fun i hi => ?_) ?_ hsilent
  · rw [stopPhase?_eq_bind, stopPhase?_eq_bind, hcalls]
  · rw [hcall] at hi
    cases hi
  · rw [stopPhase?_eq_bind, List.getElem?_eq_none (Nat.le_refl _), Option.bind_none]

theorem register_apart {a : Action ι} {kind : EventKind} {outcome : Registration × Roster ι}
    (hcall : a.call? = none)
    (hroster : s.roster.initialized = true → outcome.2 = s.roster) :
    Apart s a (s.register kind outcome).1 (s.register kind outcome).2 := by
  rcases outcome with ⟨outcome, roster⟩
  cases outcome with
  | accepted name =>
      exact apart_of_append rfl (fun p hp => by cases hp) rfl hroster hcall
        (fun e he => by cases he)
  | refused failure | panicked p =>
      exact apart_of_append rfl (fun p hp => by cases hp) rfl hroster hcall
        (List.forall_mem_singleton.mpr rfl)

theorem filterMap_spawnEffects {α : Type} {f : Effect ι → Option α}
    (hf : ∀ task, f (.spawned task) = none) (tasks : List (Task ι)) :
    (spawnEffects call tasks).filterMap f = [] := by
  rw [List.filterMap_eq_nil_iff]
  intro e he
  rcases List.mem_map.mp he with ⟨place, -, rfl⟩
  exact hf _

theorem plain_singleton {e : Effect ι} (h : e.isPlain = true) : ∀ e' ∈ [e], e'.isPlain = true :=
  List.forall_mem_singleton.mpr h

theorem spawnEffects_plain (tasks : List (Task ι)) :
    ∀ e ∈ spawnEffects call tasks, e.isPlain = true := by
  intro e he
  rcases List.mem_map.mp he with ⟨place, -, rfl⟩
  rfl

/-- A move of a start shows nothing of stops and ends no call, and its own call
    takes it. -/
theorem StartMove.plain {p q : StartPhase ι} {a : Action ι} (h : StartMove s call p a effects q) :
    a.call? = some call ∧ ∀ e ∈ effects, e.isPlain = true := by
  cases h with
  | name => exact ⟨rfl, List.forall_mem_nil _⟩
  | announce | exited _ => exact ⟨rfl, plain_singleton rfl⟩

theorem StartEnd.plain {p : StartPhase ι} {a : Action ι} {o : Outcome}
    (h : StartEnd s call p a effects o) :
    a.call? = some call ∧ ∀ e ∈ effects, e.isPlain = true := by
  cases h with
  | nameless => exact ⟨rfl, List.forall_mem_nil _⟩
  | @refused listening refusal _ =>
      refine ⟨rfl, ?_⟩
      cases refusal with
      | notListening error => exact plain_singleton rfl
      | _ => exact List.forall_mem_nil _
  | heeded _ | failed _ _ => exact ⟨rfl, plain_singleton rfl⟩

theorem StatusMove.plain {p q : StatusPhase ι} {a : Action ι}
    (h : StatusMove call p a effects q) :
    a.call? = some call ∧ ∀ e ∈ effects, e.isPlain = true := by
  cases h with
  | take _ => exact ⟨rfl, List.forall_mem_nil _⟩
  | ask _ | died _ | setAside _ | bringBack _ => exact ⟨rfl, plain_singleton rfl⟩
  | answered _ =>
      exact ⟨rfl, List.forall_mem_cons.mpr ⟨rfl, plain_singleton rfl⟩⟩

theorem StatusEnd.plain {p : StatusPhase ι} {a : Action ι} {o : Outcome}
    (h : StatusEnd call p a effects o) :
    a.call? = some call ∧ ∀ e ∈ effects, e.isPlain = true := by
  cases h with
  | concluded _ _ => exact ⟨rfl, plain_singleton rfl⟩

theorem StopMove.caller {p q : StopPhase ι} {a : Action ι} (h : StopMove s call p a effects q) :
    a.call? = some call := by
  cases h <;> rfl

theorem StopEnd.caller {p : StopPhase ι} {a : Action ι} {o : Outcome}
    (h : StopEnd s call p a effects o) : a.call? = some call := by
  cases h <;> rfl

section Unfinished

variable {i : Nat} {o o' : Outcome} {a : Action ι}

theorem unfinished_of_plain (h : ∀ e ∈ effects, e.isPlain = true) : .finished i o ∉ effects := by
  intro hmem
  cases h _ hmem

theorem StopMove.unfinished {p q : StopPhase ι} (h : StopMove s call p a effects q) :
    .finished i o ∉ effects := by
  intro hmem
  cases h with
  | accept _ | pass | succeed _ _ | mark => cases hmem
  | spawn => exact unfinished_of_plain (spawnEffects_plain _) hmem
  | closed _ =>
      rcases List.mem_cons.mp hmem with hmem | hmem
      · cases hmem
      · cases List.mem_singleton.mp hmem
  | @take _ _ _ _ closing _ => cases closing <;> cases List.mem_singleton.mp hmem
  | _ => cases List.mem_singleton.mp hmem

theorem StopEnd.unfinished {p : StopPhase ι} (h : StopEnd s call p a effects o') :
    .finished i o ∉ effects := by
  intro hmem
  cases h with
  | refused _ | nameless => cases hmem
  | failed _ _ _ | done => cases List.mem_singleton.mp hmem

end Unfinished

theorem silent_of_plain (h : ∀ e ∈ effects, e.isPlain = true) :
    ∀ e ∈ effects, Silent call e :=
  fun e he => .of_isPlain (h e he)

theorem silent_append_finished {o : Outcome} (h : ∀ e ∈ effects, e.isPlain = true) :
    ∀ e ∈ effects ++ [.finished call o], Silent call e :=
  List.forall_mem_append.mpr ⟨silent_of_plain h, List.forall_mem_singleton.mpr rfl⟩

/-- A step that no stop takes is apart from stops. -/
theorem StepElsewhere.apart {a : Action ι} (h : StepElsewhere s a t effects) :
    Apart s a t effects := by
  cases h with
  | serve => exact register_apart rfl fun hinit => Roster.serve_of_initialized hinit
  | attach => exact register_apart rfl fun hinit => Roster.attach_of_initialized hinit
  | announceRegistered hcall =>
      refine apart_of_set hcall rfl rfl rfl rfl (fun _ => rfl) rfl ?_
      exact List.forall_mem_cons.mpr ⟨rfl, List.forall_mem_singleton.mpr rfl⟩
  | @begin kind =>
      refine apart_of_append rfl (fun p hp => ?_) rfl (fun _ => rfl) rfl (fun e he => by cases he)
      cases kind with
      | stop => cases hp; rfl
      | start | status => cases hp
  | runServer _ =>
      -- The server's task and the signals leave the calls alone.
      exact apart_of_calls_eq rfl rfl rfl rfl (List.forall_mem_singleton.mpr rfl)
  | endServer _ =>
      refine apart_of_calls_eq rfl rfl rfl rfl (fun e he => ?_)
      rcases List.mem_cons.mp he with rfl | he
      · rfl
      · rcases List.mem_map.mp he with ⟨i, -, rfl⟩
        rfl
  | hear => exact apart_of_calls_eq rfl rfl rfl rfl (fun e he => by cases he)
  | startAdmitted hp haccept =>
      refine apart_of_set (startPhase?_eq_some.mp hp) rfl rfl rfl rfl (fun hinit => ?_) rfl
        (fun e he => by cases he)
      -- A start is not accepted twice.
      rw [Roster.admitStart, if_pos hinit] at haccept
      cases haccept
  | launched hp =>
      exact apart_of_set (startPhase?_eq_some.mp hp) rfl rfl rfl rfl (fun _ => rfl) rfl
        (List.forall_mem_singleton.mpr rfl)
  | startMoved hp hmove =>
      -- The calls that take these steps are no stops, neither before nor after.
      exact apart_of_set (startPhase?_eq_some.mp hp) rfl rfl rfl rfl (fun _ => rfl)
        hmove.plain.1 (silent_of_plain hmove.plain.2)
  | startEnded hp hend =>
      exact apart_of_set (startPhase?_eq_some.mp hp) rfl rfl rfl rfl (fun _ => rfl)
        hend.plain.1 (silent_append_finished hend.plain.2)
  | statusEntered hp =>
      exact apart_of_set (statusPhase?_eq_some.mp hp) rfl rfl rfl rfl (fun _ => rfl) rfl
        (silent_of_plain (spawnEffects_plain _))
  | statusMoved hp hmove =>
      exact apart_of_set (statusPhase?_eq_some.mp hp) rfl rfl rfl rfl (fun _ => rfl)
        hmove.plain.1 (silent_of_plain hmove.plain.2)
  | statusEnded hp hend =>
      exact apart_of_set (statusPhase?_eq_some.mp hp) rfl rfl rfl rfl (fun _ => rfl)
        hend.plain.1 (silent_append_finished hend.plain.2)

end System

end Steward
