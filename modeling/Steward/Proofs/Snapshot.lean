import Steward.Proofs.Gate

/-!
# What a Stop Holds On To

That what a stop knows of the roster stays true while it is under way.

A stop looks at the roster once, when it is accepted, and lets go of it. All it
does later it does with what it saw then: it stops that server, closes those
dependencies, and in the end marks the service as stopped without looking
whether that is still right. Meanwhile everything else may happen to the
service.

It is still right, for two reasons. A stop is accepted only after a start, and
from then on nobody is registered. And the only step that changes the roster
after that is taken by a stop, of which there is one at a time. `StopPhase.Sound`
says for each phase what is true of the roster, and `Reachable.sound` that it is.

## Main definitions

* `Roster.IsOpen`: The service was started and not stopped.
* `StopPhase.Sound`: What a stop has seen is the roster as it is.
* `StopPhase.isAccepted`: A stop is accepted and has not ended.

## Theorems

* `map_who_set`: A task that changes its state is about the same participant.
* `StopMove.sound`: A stop that goes on keeps what it knows true.
* `StopMove.isOpen`: It goes on only while the service is started and not stopped.
* `StopPhase.Sound.of_roster`: So does everything else.
* `Reachable.sound`: What a stop has seen is the roster as it is.
-/

namespace Steward

variable {ι : Type}

/-- The service was started and not stopped. -/
def Roster.IsOpen (r : Roster ι) : Prop :=
  r.initialized = true ∧ r.stopped = false

/-- What a stop has seen is the roster as it is. -/
def StopPhase.Sound (r : Roster ι) : StopPhase ι → Prop
  | .arriving | .queued | .entering => True
  | .admitted server deps | .announced server deps =>
    r.IsOpen ∧ r.server = server ∧ r.dependencies = deps
  | .draining server _ deps => r.IsOpen ∧ r.server = some server ∧ r.dependencies = deps
  | .drained _ _ deps | .spawning deps _ => r.IsOpen ∧ r.dependencies = deps
  | .closing tasks _ _ => r.IsOpen ∧ r.dependencies = tasks.map Task.who
  | .succeeded => r.IsOpen
  | .marked => r.initialized = true ∧ r.stopped = true

namespace Roster

theorem isOpen_of_admitStop {r : Roster ι} {server : Option ι} {deps : List ι}
    (h : r.admitStop = .ok (server, deps)) :
    r.IsOpen ∧ r.server = server ∧ r.dependencies = deps := by
  unfold admitStop at h
  by_cases hinit : r.initialized = true
  · by_cases hstopped : r.stopped = true
    · rw [hinit, Bool.not_true, if_neg Bool.false_ne_true, if_pos hstopped] at h
      cases h
    · rw [hinit, Bool.not_true, if_neg Bool.false_ne_true, if_neg hstopped] at h
      rcases Prod.mk.inj (Except.ok.inj h) with ⟨hserver, hdeps⟩
      exact ⟨⟨hinit, Bool.eq_false_iff.mpr hstopped⟩, hserver, hdeps⟩
  · rw [Bool.eq_false_iff.mpr hinit, Bool.not_false, if_pos rfl] at h
    cases h

/-- Once it is started, a service refuses a stop for one reason only. -/
theorem stopped_of_admitStop {r : Roster ι} {refusal : StopRefusal}
    (hinit : r.initialized = true) (h : r.admitStop = .error refusal) :
    r.stopped = true ∧ refusal = .stopped := by
  rw [admitStop, hinit, Bool.not_true, if_neg Bool.false_ne_true] at h
  split at h
  · rename_i hstopped
    exact ⟨hstopped, (Except.error.inj h).symm⟩
  · cases h

end Roster

namespace System

variable {s t : System ι} {call : Nat} {effects : List (Effect ι)} {p q : StopPhase ι}
  {a : Action ι}

theorem map_who_newTasks (s : System ι) (who : List ι) :
    (s.newTasks who).map Task.who = who := by
  rw [newTasks, List.map_map]
  exact List.zipIdx_map_fst 0 who

theorem map_who_set {tasks : List (Task ι)} {place number : Nat} {who : ι}
    {old new : TaskState} (h : tasks[place]? = some ⟨number, who, old⟩) :
    (tasks.set place ⟨number, who, new⟩).map Task.who = tasks.map Task.who := by
  rw [List.map_set]
  have hwho : (tasks.map Task.who)[place]? = some who := by
    rw [List.getElem?_map, h, Option.map_some]
  rcases List.getElem?_eq_some_iff.mp hwho with ⟨hlt, hget⟩
  rw [← hget]
  exact List.set_getElem_self hlt

/-- A stop that goes on keeps what it knows true, the marking of the service
    included. -/
theorem StopMove.sound (h : StopMove s call p a effects q) (hp : p.Sound s.roster) :
    q.Sound (p.rosterAfter s.roster) := by
  cases h with
  | accept haccept => exact Roster.isOpen_of_admitStop haccept
  | announce | ask => exact hp
  | pass => exact ⟨hp.1, hp.2.2⟩
  | drained => exact ⟨hp.1, hp.2.2⟩
  | report => exact hp
  | spawn => exact ⟨hp.1, by rw [map_who_newTasks]; exact hp.2⟩
  | close htask | died htask | closed htask => exact ⟨hp.1, by rw [map_who_set htask]; exact hp.2⟩
  | take _ | setAside _ | bringBack _ => exact hp
  | succeed _ _ => exact hp.1
  | mark => exact ⟨hp.1, rfl⟩

/-- A stop goes on only while the service is started and not stopped. -/
theorem StopMove.isOpen (h : StopMove s call p a effects q) (hp : p.Sound s.roster) :
    s.roster.IsOpen := by
  cases h with
  | accept haccept => exact (Roster.isOpen_of_admitStop haccept).1
  | mark => exact hp
  | _ => exact hp.1

end System

namespace StopPhase

/-- Whether a stop is accepted and has not ended. -/
def isAccepted : StopPhase ι → Bool
  | .arriving | .queued | .entering => false
  | _ => true

theorem isInside_of_isAccepted {p : StopPhase ι} (h : p.isAccepted = true) :
    p.isInside = true := by
  cases p with
  | arriving | queued => cases h
  | _ => rfl

/-- Whoever is accepted knows that the service is initialized. -/
theorem Sound.initialized {r : Roster ι} {p : StopPhase ι} (hp : p.Sound r)
    (h : p.isAccepted = true) : r.initialized = true := by
  cases p with
  | arriving | queued | entering => cases h
  | succeeded | marked => exact hp.1
  | _ => exact hp.1.1

theorem Sound.of_not_isInside {r : Roster ι} {p : StopPhase ι} (h : p.isInside = false) :
    p.Sound r := by
  cases p with
  | arriving | queued => trivial
  | _ => cases h

/-- What a stop knows stays true as long as the roster of an initialized service
    stays the same. -/
theorem Sound.of_roster {r r' : Roster ι} {p : StopPhase ι} (hp : p.Sound r)
    (hr : r.initialized = true → r' = r) : p.Sound r' := by
  -- Whoever knows anything knows that the service is initialized.
  cases p with
  | arriving | queued | entering => trivial
  | succeeded => rw [hr hp.1]; exact hp
  | marked => rw [hr hp.1]; exact hp
  | _ => rw [hr hp.1.1]; exact hp

end StopPhase

/-- What every stop has seen is the roster as it is. -/
def System.Sound (s : System ι) : Prop :=
  ∀ call p, s.stopPhase? call = some p → p.Sound s.roster

namespace System

variable {s t : System ι} {effects : List (Effect ι)} {a : Action ι}

/-- A step keeps what every stop knows true. -/
theorem Sound.step (hs : s.Sound) (hg : s.Gated) (h : Step s a t effects) : t.Sound := by
  intro i q hq
  cases h with
  | elsewhere h =>
      rcases h.apart.comes i q hq with hp | ⟨rfl, -⟩
      · exact (hs i q hp).of_roster h.apart.roster
      · trivial
  | approached hp =>
      -- Who comes to the turnstile has not seen the roster.
      rw [stopPhase?_setStop hp] at hq
      split at hq
      · rw [← Option.some.inj hq]
        split <;> trivial
      · exact hs i q hq
  | stopMoved hp hmove =>
      rw [stopPhase?_setStop hp] at hq
      split at hq
      · -- A stop sees the roster when it is accepted, and the roster stays as it is until the mark.
        rw [← Option.some.inj hq]
        exact hmove.sound (hs _ _ hp)
      · -- The others have not passed, since this one has.
        rename_i hi
        refine .of_not_isInside (Bool.eq_false_iff.mpr fun hin => hi ?_)
        exact hg.eq_of_isInside hp hmove.isInside.1 hq hin
  | stopEnded hp hend =>
      rw [hg.stopPhase?_finishStop hp hend.isInside] at hq
      -- The end of a stop changes nothing in the roster, and whoever is let in has not seen it.
      rw [roster_finishStop]
      split at hq
      · cases hq
      · split at hq
        · rw [← Option.some.inj hq]
          trivial
        · exact hs i q hq

end System

/-- What a stop has seen is the roster as it is, in every system that a service
    can come to. -/
theorem Reachable.sound {settings : Settings} {s : System ι} (hs : Reachable settings s) :
    s.Sound := by
  induction hs with
  | initial => exact nofun
  | act hs hact ih => exact ih.step hs.gated (System.step_of_act hact)

end Steward
