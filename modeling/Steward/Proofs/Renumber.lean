import Steward.Proofs.Gate
import Steward.Proofs.Step.Converse

/-!
# Steps Under Other Numbers

What a call can do does not depend on its number, nor on any other call.

A call is known by how many were made before it. Two services that differ in what
other calls were made to them give different numbers to what is otherwise the same
call, so to compare them is to renumber one of them. `Action.renumber` and
`Effect.renumber` do this to what happens and to what shows.

A step looks at the call that takes it and at what all calls share, and at nothing
else; only the turnstile ties calls to each other. So a step is possible wherever the
shared parts are the same and the call is found under its other number, it shows the
same there, and it changes the call in the same way (`StepElsewhere.carry`). The calls
and the turnstile can be anything else besides: `System.patch` puts others in their
place, and `CallChange` tells what a step does to the list of calls so that it can be
done to another list.

That a call is woken is left out of what is compared. It is a hint to whoever lets the
calls take turns, and which calls wait does depend on the others.

## Main definitions

* `Action.renumber`, `Effect.renumber`: Other numbers for the calls.
* `seenIn`: What shows of a step, but for calls being woken.
* `System.patch`: Other calls and another turnstile.
* `CallChange`: What a step does to the list of calls.

## Theorems

* `StepElsewhere.carry`, `StopMove.carry`: A step is possible under other numbers too,
  and is the same there.
* `Step.carried`: Whatever is possible is possible under other numbers.
-/

namespace Steward

variable {ι : Type}

/-- An action with other numbers for the calls. -/
def Action.renumber (f : Nat → Nat) : Action ι → Action ι
  | .serve ask offered => .serve ask offered
  | .attach ask offered => .attach ask offered
  | .announceRegistered call => .announceRegistered (f call)
  | .begin kind => .begin kind
  | .enterStart call listening => .enterStart (f call) listening
  | .nameForStart call answer => .nameForStart (f call) answer
  | .announceStart call => .announceStart (f call)
  | .launch call => .launch (f call)
  | .runServer => .runServer
  | .endServer result => .endServer result
  | .hear signal => .hear signal
  | .heed call => .heed (f call)
  | .joinServer call => .joinServer (f call)
  | .approach call => .approach (f call)
  | .enterStop call => .enterStop (f call)
  | .announceStop call => .announceStop (f call)
  | .nameForStop call answer => .nameForStop (f call) answer
  | .endDraining call result => .endDraining (f call) result
  | .reportServer call => .reportServer (f call)
  | .spawnCloses call => .spawnCloses (f call)
  | .runClose call place answer => .runClose (f call) place answer
  | .endClose call place result => .endClose (f call) place result
  | .joinClose call => .joinClose (f call)
  | .concludeStop call => .concludeStop (f call)
  | .markStopped call => .markStopped (f call)
  | .announceStopped call => .announceStopped (f call)
  | .enterStatus call => .enterStatus (f call)
  | .runProbe call place answer => .runProbe (f call) place answer
  | .endProbe call place answer => .endProbe (f call) place answer
  | .joinProbe call => .joinProbe (f call)
  | .concludeStatus call => .concludeStatus (f call)
  | .setAside call => .setAside (f call)
  | .bringBack call => .bringBack (f call)

/-- What shows, with other numbers for the calls. -/
def Effect.renumber (f : Nat → Nat) : Effect ι → Effect ι
  | .spawned (.part call place) => .spawned (.part (f call) place)
  | .woken call => .woken (f call)
  | .gaveWay call => .gaveWay (f call)
  | .finished call o => .finished (f call) o
  | e => e

/-- Whether an effect is more than a hint that a call can go on. -/
def Effect.isSeen : Effect ι → Bool
  | .woken _ => false
  | _ => true

/-- What shows, but for calls being woken. -/
def seenIn (effects : List (Effect ι)) : List (Effect ι) :=
  effects.filter Effect.isSeen

/-- Whether a call is made in an action. -/
def Action.opens : Action ι → Bool
  | .serve _ _ | .attach _ _ | .begin _ => true
  | _ => false

/-- What a step does to the list of calls. -/
inductive CallChange (ι : Type) where
  | none
  | set (call : Nat) (c : Call ι)
  | add (c : Call ι)

namespace CallChange

def apply (calls : List (Call ι)) : CallChange ι → List (Call ι)
  | .none => calls
  | .set call c => calls.set call c
  | .add c => calls ++ [c]

def renumber (f : Nat → Nat) : CallChange ι → CallChange ι
  | .none => .none
  | .set call c => .set (f call) c
  | .add c => .add c

/-- Whose call is changed: that of the caller, which does not wait at the turnstile,
    and a call is added where one is made. -/
def Fits (s : System ι) (a : Action ι) : CallChange ι → Prop
  | .none => a.call? = Option.none ∧ a.opens = false
  | .set call _ => a.call? = some call ∧ call < s.calls.length ∧
      s.calls[call]? ≠ some (.stopping .queued)
  | .add _ => a.call? = Option.none ∧ a.opens = true

end CallChange

theorem seenIn_append (effects more : List (Effect ι)) :
    seenIn (effects ++ more) = seenIn effects ++ seenIn more :=
  List.filter_append ..

theorem seenIn_map_woken (calls : List Nat) :
    seenIn (calls.map (.woken : Nat → Effect ι)) = [] := by
  rw [seenIn, List.filter_eq_nil_iff]
  intro e he
  rcases List.mem_map.mp he with ⟨i, -, rfl⟩
  exact Bool.false_ne_true

theorem isSeen_renumber (f : Nat → Nat) (e : Effect ι) : (e.renumber f).isSeen = e.isSeen := by
  cases e with
  | spawned task => cases task <;> rfl
  | _ => rfl

theorem seenIn_map_renumber (f : Nat → Nat) (effects : List (Effect ι)) :
    seenIn (effects.map (Effect.renumber f)) = (seenIn effects).map (Effect.renumber f) := by
  rw [seenIn, List.filter_map, seenIn]
  congr 1
  exact List.filter_congr fun e _ => isSeen_renumber f e

theorem seenIn_finished (f : Nat → Nat) (call : Nat) (o : Outcome) (effects : List (Effect ι)) :
    seenIn (effects.map (Effect.renumber f) ++ [.finished (f call) o]) =
      (seenIn (effects ++ [.finished call o])).map (Effect.renumber f) := by
  rw [seenIn_append, seenIn_append, List.map_append, seenIn_map_renumber]
  rfl

namespace System

variable {s t : System ι} {call : Nat} {a : Action ι} {effects : List (Effect ι)} {o : Outcome}
  (f : Nat → Nat)

/-- Other calls, and another turnstile. -/
def patch (s : System ι) (calls : List (Call ι)) (turnstile : Turnstile) : System ι :=
  { s with calls, turnstile }

section Patch

variable {calls' : List (Call ι)} (turnstile' : Turnstile)

theorem startPhase?_patch (h : calls'[f call]? = s.calls[call]?) :
    (s.patch calls' turnstile').startPhase? (f call) = s.startPhase? call := by
  rw [startPhase?, startPhase?, patch, h]

theorem stopPhase?_patch (h : calls'[f call]? = s.calls[call]?) :
    (s.patch calls' turnstile').stopPhase? (f call) = s.stopPhase? call := by
  rw [stopPhase?, stopPhase?, patch, h]

theorem statusPhase?_patch (h : calls'[f call]? = s.calls[call]?) :
    (s.patch calls' turnstile').statusPhase? (f call) = s.statusPhase? call := by
  rw [statusPhase?, statusPhase?, patch, h]

theorem spawnEffects_renumber (tasks : List (Task ι)) :
    (spawnEffects call tasks : List (Effect ι)).map (Effect.renumber f) =
      spawnEffects (f call) tasks := by
  rw [spawnEffects, List.map_map]
  rfl

theorem StartMove.carry {p q : StartPhase ι} (h : StartMove s call p a effects q) :
    StartMove (s.patch calls' turnstile') (f call) p (a.renumber f)
      (effects.map (Effect.renumber f)) q := by
  cases h with
  | name => exact .name
  | announce => exact .announce
  | exited htask => exact .exited htask

theorem StartEnd.carry {p : StartPhase ι} (h : StartEnd s call p a effects o) :
    StartEnd (s.patch calls' turnstile') (f call) p (a.renumber f)
      (effects.map (Effect.renumber f)) o := by
  cases h with
  | @refused listening refusal hrefused =>
      have hlogged : (refusal.logged s.settings.name : List (Effect ι)).map (Effect.renumber f) =
          refusal.logged s.settings.name := by
        cases refusal <;> rfl
      rw [hlogged]
      exact .refused hrefused
  | nameless => exact .nameless
  | heeded hfirst => exact .heeded hfirst
  | failed htask hcause => exact .failed htask hcause

theorem StatusMove.carry {p q : StatusPhase ι} (h : StatusMove call p a effects q) :
    StatusMove (f call) p (a.renumber f) (effects.map (Effect.renumber f)) q := by
  cases h with
  | ask htask => exact .ask htask
  | died htask => exact .died htask
  | answered htask => exact .answered htask
  | take htray => exact .take htray
  | setAside htray => exact .setAside htray
  | bringBack htray => exact .bringBack htray

theorem StatusEnd.carry {p : StatusPhase ι} (h : StatusEnd call p a effects o) :
    StatusEnd (f call) p (a.renumber f) (effects.map (Effect.renumber f)) o := by
  cases h with
  | concluded htray htasks => exact .concluded htray htasks

theorem StopMove.carry {p q : StopPhase ι} (h : StopMove s call p a effects q) :
    StopMove (s.patch calls' turnstile') (f call) p (a.renumber f)
      (effects.map (Effect.renumber f)) q := by
  -- No move of a stop reads the calls or the turnstile; only what it shows may name the call.
  cases h with
  | accept haccept => exact .accept haccept
  | announce => exact .announce
  | pass => exact .pass
  | ask => exact .ask
  | drained => exact .drained
  | report => exact .report
  | spawn =>
      rw [spawnEffects_renumber]
      exact .spawn
  | close htask => exact .close htask
  | died htask => exact .died htask
  | closed htask => exact .closed htask
  | @take tasks tray rest causes closing htray =>
      have hshown : (closing.shown s.settings.name : List (Effect ι)).map (Effect.renumber f) =
          closing.shown s.settings.name := by
        cases closing <;> rfl
      rw [hshown]
      exact .take htray
  | setAside htray => exact .setAside htray
  | bringBack htray => exact .bringBack htray
  | succeed htray htasks => exact .succeed htray htasks
  | mark => exact .mark

theorem StopEnd.carry {p : StopPhase ι} (h : StopEnd s call p a effects o) :
    StopEnd (s.patch calls' turnstile') (f call) p (a.renumber f)
      (effects.map (Effect.renumber f)) o := by
  cases h with
  | refused hrefused => exact .refused hrefused
  | nameless => exact .nameless
  | failed htray htasks hcauses => exact .failed htray htasks hcauses
  | done => exact .done

end Patch

section Carry

variable {calls' : List (Call ι)} (turnstile' : Turnstile)

theorem fits_set {c c' : Call ι} (hcaller : a.call? = some call)
    (hcall : s.calls[call]? = some c) (hne : c ≠ .stopping .queued) :
    (CallChange.set call c').Fits s a := by
  refine ⟨hcaller, (List.getElem?_eq_some_iff.mp hcall).1, ?_⟩
  rw [hcall]
  exact fun h => hne (Option.some.inj h)

/-- What a step is where other calls were made and the caller has another number: it
    shows the same, and changes the same. -/
def Carried (s : System ι) (a : Action ι) (t : System ι) (effects : List (Effect ι))
    (calls' : List (Call ι)) (possible : System ι → List (Effect ι) → Prop) : Prop :=
  ∃ (change : CallChange ι) (effects' : List (Effect ι)), change.Fits s a ∧
    t = t.patch (change.apply s.calls) s.turnstile ∧
    possible (t.patch ((change.renumber f).apply calls') turnstile') effects' ∧
    seenIn effects' = (seenIn effects).map (Effect.renumber f)

/-- A registration ends at once, or is about to be announced. -/
theorem register_patch (s : System ι) (kind : EventKind) (outcome : Registration × Roster ι) :
    ∃ (c : Call ι) (shown : Nat → List (Effect ι)),
      (∀ calls turnstile, (s.patch calls turnstile).register kind outcome =
        ({ s with roster := outcome.2 }.patch (calls ++ [c]) turnstile, shown calls.length)) ∧
      ∀ n, seenIn (shown (f n)) = (seenIn (shown n)).map (Effect.renumber f) := by
  rcases outcome with ⟨_ | _ | _, roster⟩
  · exact ⟨_, fun _ => [], fun _ _ => rfl, fun _ => rfl⟩
  · exact ⟨_, fun n => [.finished n (.failed _)], fun _ _ => rfl, fun _ => rfl⟩
  · exact ⟨_, fun n => [.finished n (.panicked _)], fun _ _ => rfl, fun _ => rfl⟩

theorem register_carried {kind : EventKind} {outcome : Registration × Roster ι}
    {possible : System ι → List (Effect ι) → Prop} (hlength : calls'.length = f s.calls.length)
    (hopens : a.call? = none ∧ a.opens = true)
    (hpossible : possible ((s.patch calls' turnstile').register kind outcome).1
      ((s.patch calls' turnstile').register kind outcome).2) :
    Carried f turnstile' s a (s.register kind outcome).1 (s.register kind outcome).2 calls'
      possible := by
  rcases register_patch f s kind outcome with ⟨c, shown, hregister, hshown⟩
  have hhere : s.register kind outcome = _ := hregister s.calls s.turnstile
  rw [hregister] at hpossible
  rw [hhere]
  exact ⟨.add c, _, hopens, rfl, hpossible, hlength ▸ hshown _⟩

/-- A step that has nothing to do with the turnstile is the same under other
    numbers. -/
theorem StepElsewhere.carry (h : StepElsewhere s a t effects)
    (hcalls : ∀ j, a.call? = some j → calls'[f j]? = s.calls[j]?)
    (hlength : calls'.length = f s.calls.length) :
    Carried f turnstile' s a t effects calls'
      (StepElsewhere (s.patch calls' turnstile') (a.renumber f)) := by
  cases h with
  -- A step that adds a call adds it at the new length.
  | serve => exact register_carried f turnstile' hlength ⟨rfl, rfl⟩ .serve
  | attach => exact register_carried f turnstile' hlength ⟨rfl, rfl⟩ .attach
  | @announceRegistered j notice hcall =>
      exact ⟨.set j (.ended .done), [.published notice, .finished (f j) .done],
        fits_set rfl hcall nofun, rfl,
        .announceRegistered ((hcalls j rfl).trans hcall), rfl⟩
  | @begin kind => exact ⟨.add kind.begun, [], ⟨rfl, rfl⟩, rfl, .begin, rfl⟩
  | @runServer number who htask =>
      exact ⟨.none, [.invoked .start who], ⟨rfl, rfl⟩, rfl, .runServer htask, rfl⟩
  | @endServer number who result htask =>
      refine ⟨.none, _, ⟨rfl, rfl⟩, rfl, .endServer htask, ?_⟩
      -- Which starts wait depends on the calls, and is no more than a hint.
      have hseen : ∀ waiting : List Nat,
          seenIn ((.returned .start who : Effect ι) :: waiting.map .woken) =
            [.returned .start who] := by
        intro waiting
        rw [seenIn, List.filter_cons_of_pos rfl, ← seenIn, seenIn_map_woken]
      rw [hseen, hseen]
      rfl
  | @hear signal => exact ⟨.none, [], ⟨rfl, rfl⟩, rfl, .hear, rfl⟩
  | @startAdmitted j listening server roster hp haccept =>
      -- A step of a call reads that call and sets it, wherever it is now.
      exact ⟨.set j (.starting (.admitted server)), [],
        fits_set rfl (startPhase?_eq_some.mp hp) nofun, rfl,
        .startAdmitted ((startPhase?_patch f turnstile' (hcalls j rfl)).trans hp) haccept, rfl⟩
  | @launched j server name hp =>
      exact ⟨.set j (.starting (.waiting name false)), [.spawned .server],
        fits_set rfl (startPhase?_eq_some.mp hp) nofun, rfl,
        .launched ((startPhase?_patch f turnstile' (hcalls j rfl)).trans hp), rfl⟩
  | @startMoved j p q a shown hp hmove =>
      exact ⟨.set j (.starting q), _,
        fits_set hmove.plain.1 (startPhase?_eq_some.mp hp) nofun, rfl,
        .startMoved ((startPhase?_patch f turnstile' (hcalls j hmove.plain.1)).trans hp)
          (hmove.carry f turnstile'), seenIn_map_renumber f _⟩
  | @startEnded j p a shown o hp hend =>
      exact ⟨.set j (.ended o), _,
        fits_set hend.plain.1 (startPhase?_eq_some.mp hp) nofun, rfl,
        .startEnded ((startPhase?_patch f turnstile' (hcalls j hend.plain.1)).trans hp)
          (hend.carry f turnstile'), seenIn_finished f j o _⟩
  | @statusEntered j hp =>
      refine ⟨.set j (.checking (.probing (s.newTasks s.roster.participants) {} {})), _,
        fits_set rfl (statusPhase?_eq_some.mp hp) nofun, rfl,
        .statusEntered ((statusPhase?_patch f turnstile' (hcalls j rfl)).trans hp), ?_⟩
      rw [← seenIn_map_renumber, spawnEffects_renumber]
      rfl
  | @statusMoved j p q a shown hp hmove =>
      exact ⟨.set j (.checking q), _,
        fits_set hmove.plain.1 (statusPhase?_eq_some.mp hp) nofun, rfl,
        .statusMoved ((statusPhase?_patch f turnstile' (hcalls j hmove.plain.1)).trans hp)
          (hmove.carry f), seenIn_map_renumber f _⟩
  | @statusEnded j p a shown o hp hend =>
      exact ⟨.set j (.ended o), _,
        fits_set hend.plain.1 (statusPhase?_eq_some.mp hp) nofun, rfl,
        .statusEnded ((statusPhase?_patch f turnstile' (hcalls j hend.plain.1)).trans hp)
          (hend.carry f), seenIn_finished f j o _⟩

theorem stopMoved_carried {p q : StopPhase ι} (hp : s.stopPhase? call = some p)
    (hmove : StopMove s call p a effects q) (hcall : calls'[f call]? = s.calls[call]?) :
    Carried f turnstile' s a
      ({ s with
          roster := p.rosterAfter s.roster
          taskCount := s.taskCount + p.toSpawn.length }.setStop call q) effects calls'
      (Step (s.patch calls' turnstile') (a.renumber f)) := by
  have hqueued : Call.stopping p ≠ .stopping .queued := by
    rintro ⟨⟩
    exact Bool.false_ne_true hmove.isInside.1
  exact ⟨.set call (.stopping q), _, fits_set hmove.caller (stopPhase?_eq_some.mp hp) hqueued, rfl,
    .stopMoved ((stopPhase?_patch f turnstile' hcall).trans hp) (hmove.carry f turnstile'),
    seenIn_map_renumber f _⟩

/-- What is possible is possible under other numbers, whatever the turnstile. -/
theorem Step.carried (h : Step s a t effects)
    (hcalls : ∀ j, a.call? = some j → calls'[f j]? = s.calls[j]?)
    (hlength : calls'.length = f s.calls.length) :
    ∃ t' effects', Step (s.patch calls' turnstile') (a.renumber f) t' effects' := by
  cases h with
  | elsewhere h =>
      rcases h.carry f turnstile' hcalls hlength with ⟨_, _, _, _, hpossible, _⟩
      exact ⟨_, _, .elsewhere hpossible⟩
  | approached hp =>
      exact ⟨_, _, .approached ((stopPhase?_patch f turnstile' (hcalls _ rfl)).trans hp)⟩
  | stopMoved hp hmove =>
      rcases stopMoved_carried f turnstile' hp hmove (hcalls _ hmove.caller) with
        ⟨_, _, _, _, hpossible, _⟩
      exact ⟨_, _, hpossible⟩
  | stopEnded hp hend =>
      exact ⟨_, _, .stopEnded ((stopPhase?_patch f turnstile' (hcalls _ hend.caller)).trans hp)
        (hend.carry f turnstile')⟩

end Carry

end System

end Steward
