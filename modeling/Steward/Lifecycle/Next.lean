import Steward.Lifecycle

/-!
# What a Call Does Next

The step that a call takes of its own accord.

A call goes on from step to step until it has to wait: for the turnstile, for a
participant, for a task, or for a signal. `System.next?` is the step it takes
now, if it does not have to wait. A program with one thread takes these steps
without a break, so between two waits nothing else happens: `System.advance`
takes them all at once. Only a call that finds very many tasks ended breaks off
after a while and gives way.

A start that could see both a signal and the end of the server sees the signal.

## Main definitions

* `System.next?`: The next step of a call.
* `System.advance`: All the steps up to the next wait.

## Theorems

* `advance_isRun`: What a call does in one go is a run.
-/

namespace Steward

variable {ι : Type}

namespace StartPhase

/-- The next step of a start. -/
def next? (p : StartPhase ι) (s : System ι) (call : Nat) (ask : ι → Attempt String) :
    Option (Action ι) :=
  match p with
  | .entering => some (.enterStart call (.ok ()))
  | .admitted server => some (.nameForStart call (ask server))
  | .named _ _ => some (.announceStart call)
  | .announced _ _ => some (.launch call)
  | .waiting _ exited =>
    if (s.settings.signals.first? s.heard).isSome then some (.heed call)
    else match s.serverTask with
      | .ended _ _ => if exited then none else some (.joinServer call)
      | _ => none

end StartPhase

namespace StopPhase

/-- The next step of a stop. -/
def next? (p : StopPhase ι) (call : Nat) (ask : ι → Attempt String) : Option (Action ι) :=
  match p with
  | .arriving => some (.approach call)
  | .queued => none
  | .entering => some (.enterStop call)
  | .admitted _ _ => some (.announceStop call)
  | .announced none _ => some (.nameForStop call (.ok ""))
  | .announced (some server) _ => some (.nameForStop call (ask server))
  | .draining _ _ _ => none
  | .drained _ _ _ => some (.reportServer call)
  | .spawning _ _ => some (.spawnCloses call)
  | .closing tasks tray _ =>
    if !tray.ended.isEmpty then some (.joinClose call)
    else if tray.isEmpty && tasks.all (·.state = .finished) then some (.concludeStop call)
    else none
  | .succeeded => some (.markStopped call)
  | .marked => some (.announceStopped call)

end StopPhase

namespace StatusPhase

/-- The next step of a question for the health. -/
def next? (p : StatusPhase ι) (call : Nat) : Option (Action ι) :=
  match p with
  | .entering => some (.enterStatus call)
  | .probing tasks tray _ =>
    if !tray.ended.isEmpty then some (.joinProbe call)
    else if tray.isEmpty && tasks.all (·.state = .finished) then some (.concludeStatus call)
    else none

end StatusPhase

/-- Whether a step takes up something that has ended beside a call. -/
def Action.isJoin : Action ι → Bool
  | .joinClose _ | .joinProbe _ => true
  | _ => false

/-- How much is taken up in one turn. Whoever would take up more gives way to
    others first. -/
def turnAllowance : Nat := 128

namespace System

/-- The next step of a call, if it does not have to wait. Participants that are
    asked for their names give the answers of `ask`. -/
def next? (s : System ι) (call : Nat) (ask : ι → Attempt String) : Option (Action ι) :=
  match s.calls[call]? with
  | some (.registering _) => some (.announceRegistered call)
  | some (.starting p) => p.next? s call ask
  | some (.stopping p) => p.next? call ask
  | some (.checking p) => p.next? call
  | some (.ended _) => none
  | none => none

/-- A call takes the steps that it can take without waiting, so many at most. If
    it would take up more than it is allowed to, it gives way instead. -/
def advance (s : System ι) (call : Nat) (ask : ι → Attempt String) (allowance : Nat) :
    Nat → System ι × List (Effect ι)
  | 0 => (s, [])
  | limit + 1 =>
    match s.next? call ask with
    | none => (s, [])
    | some a =>
      if a.isJoin && allowance = 0 then (s.act (.setAside call)).getD (s, [])
      else match s.act a with
        | none => (s, [])
        | some (t, now) =>
          let (u, later) :=
            t.advance call ask (if a.isJoin then allowance - 1 else allowance) limit
          (u, now ++ later)

/-- How many steps a call can take between two waits at most: the longest way
    through its phases, and what it takes up. -/
def advanceLimit : Nat :=
  turnAllowance + 12

/-- What a call does in one go is a run. -/
theorem advance_isRun (s : System ι) (call : Nat) (ask : ι → Attempt String)
    (allowance limit : Nat) :
    ∃ actions, s.run actions = some (s.advance call ask allowance limit) := by
  induction limit generalizing s allowance with
  | zero => exact ⟨[], rfl⟩
  | succ limit ih =>
    unfold advance
    cases hnext : s.next? call ask with
    | none => exact ⟨[], rfl⟩
    | some a =>
      dsimp only
      split
      · cases hact : s.act (.setAside call) with
        | none => exact ⟨[], rfl⟩
        | some result => exact ⟨[.setAside call], by simp [run, hact]⟩
      · cases hact : s.act a with
        | none => exact ⟨[], rfl⟩
        | some result =>
          obtain ⟨t, now⟩ := result
          obtain ⟨actions, h⟩ := ih t (if a.isJoin then allowance - 1 else allowance)
          exact ⟨a :: actions, by simp [run, hact, h]⟩

end System

end Steward
