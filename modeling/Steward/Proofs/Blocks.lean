import Steward.Proofs.Closings
import Steward.Proofs.Enrolment

/-!
# Stops Come in Blocks

However many stops overlap, what they do to the participants does not.

An observer notes down when a stop is accepted, when a participant is asked to
stop or to close, when it is done, and when a stop ends. Each accepted stop makes
one block of this. It begins with the acceptance. The server that was registered
is asked to stop and is done with it, then every dependency that was ever
attached is closed, and then the stop ends. Between two blocks there is nothing
but stops that are refused, and after a block that has ended well there is no
other.

The argument follows the one stop that has passed the turnstile. Its phase says
exactly what has been noted down since the last block (`StopPhase.Shows`), and
each of its steps adds what the next phase says. When it ends, its notes are
complete. What was noted down of earlier stops stays right because they have
seen the same roster, and no later one can change it.

A participant that panics when it is asked for its name is left out here, since
then a stop can end early and a dependency stay unclosed.

## Main definitions

* `System.stopMarks`: What is noted down of a step.
* `Action.breaksOff`: A participant cannot tell its name to a stop.
* `IsRefusal`, `Block`, `OpenBlock`: A stop that is refused, one that was
  accepted and has ended, and one that is under way.
* `StopPhase.Shows`: What has been noted down of a stop in a phase.

## Theorems

* `StopMove.shows`: A stop that goes on adds what its next phase says.
* `StopEnd.segment`: A stop that ends leaves a refusal or a block.
* `Told.step`: A step keeps the notes in blocks.
* `Settled.step`: After a stop that has ended well nobody is asked for anything.
* `stops_in_blocks`: The notes of every run come in blocks.
-/

namespace Steward

variable {ι : Type}

/-- What an observer of stops notes down of an effect. -/
def Effect.stopMark? (s : System ι) : Effect ι → Option (StopMark ι)
  | .invoked .stop who => some (.invoked .stop who)
  | .invoked .close who => some (.invoked .close who)
  | .returned .stop who => some (.returned .stop who)
  | .returned .close who => some (.returned .close who)
  | .finished call o => (s.stopPhase? call).map fun _ => .ended call o
  | _ => none

/-- The stop that is accepted by an action. -/
def System.admission (s : System ι) : Action ι → List (StopMark ι)
  | .enterStop call =>
    match s.stopPhase? call, s.roster.admitStop with
    | some .entering, .ok _ => [.admitted call]
    | _, _ => []
  | _ => []

/-- What an observer of stops notes down of a step. -/
def System.stopMarks (s : System ι) (a : Action ι) (effects : List (Effect ι)) :
    List (StopMark ι) :=
  s.admission a ++ effects.filterMap (Effect.stopMark? s)

/-- Whether a participant panics when a stop asks it for its name. -/
def Action.breaksOff : Action ι → Bool
  | .nameForStop _ (.error _) | .runClose _ _ (.error _) => true
  | _ => false

/-- What is noted down of a stop up to the closing of the dependencies. -/
def opening (call : Nat) (server : ι) : List (StopMark ι) :=
  [.admitted call, .invoked .stop server, .returned .stop server]

/-- The notes of a stop that is refused. -/
def IsRefusal (marks : List (StopMark ι)) : Prop :=
  ∃ (call : Nat) (refusal : StopRefusal), marks = [.ended call (.failed refusal.failure)]

/-- The notes of a stop that was accepted and has ended. -/
inductive Block (server : Option ι) (deps : List ι) : List (StopMark ι) → Prop where
  | mk {call : Nat} {who : ι} {closes : List (StopMark ι)} {o : Outcome}
      (hserver : server = some who) (hcloses : Closings deps deps closes)
      (ho : o = .done ∨ ∃ causes, o = .failed (stopFailure.addCauses causes)) :
    Block server deps (opening call who ++ closes ++ [.ended call o])

/-- The notes of a stop that was accepted and has not ended. -/
inductive OpenBlock (server : Option ι) (deps : List ι) : List (StopMark ι) → Prop where
  | admitted {call : Nat} : OpenBlock server deps [.admitted call]
  | stopping {call : Nat} {who : ι} (hserver : server = some who) :
    OpenBlock server deps [.admitted call, .invoked .stop who]
  | closing {call : Nat} {who : ι} {begun ended : List ι} {closes : List (StopMark ι)}
      (hserver : server = some who) (hbegun : begun.Subperm deps)
      (hcloses : Closings begun ended closes) :
    OpenBlock server deps (opening call who ++ closes)

/-- The notes come in blocks, of which the last may be unfinished, and after one
    that has ended well nobody is asked for anything. -/
structure InBlocks (server : Option ι) (deps : List ι) (marks : List (StopMark ι)) : Prop where
  blocks : ∃ segments rest, marks = List.flatten segments ++ rest ∧
    (∀ seg ∈ segments, IsRefusal seg ∨ Block server deps seg) ∧
    (rest = [] ∨ OpenBlock server deps rest)
  late : marks.Pairwise fun earlier later => (∃ call, earlier = .ended call .done) →
    ∃ call, later = .ended call (.failed StopRefusal.stopped.failure)

/-- What has been noted down of a stop that has passed the turnstile, by its
    phase. -/
def StopPhase.Shows (r : Roster ι) (call : Nat) : StopPhase ι → List (StopMark ι) → Prop
  | .arriving, _ | .queued, _ => True
  | .entering, marks => marks = []
  | .admitted _ _, marks | .announced _ _, marks => marks = [.admitted call]
  | .draining server _ _, marks => marks = [.admitted call, .invoked .stop server]
  | .drained _ _ _, marks | .spawning _ _, marks =>
    ∃ server, r.server = some server ∧ marks = opening call server
  | .closing tasks _ _, marks =>
    ∃ server closes, r.server = some server ∧ marks = opening call server ++ closes ∧
      Closings (begunOf tasks) (endedOf tasks) closes
  | .succeeded, marks | .marked, marks =>
    ∃ server closes, r.server = some server ∧ marks = opening call server ++ closes ∧
      Closings r.dependencies r.dependencies closes

/-- What has been noted down stays right as long as the roster of an initialized
    service stays the same. -/
theorem StopPhase.Shows.of_roster {r r' : Roster ι} {call : Nat} {p : StopPhase ι}
    {marks : List (StopMark ι)} (hm : p.Shows r call marks) (hp : p.Sound r)
    (hr : r.initialized = true → r' = r) : p.Shows r' call marks := by
  cases p with
  | arriving | queued | entering => exact hm
  | succeeded => rw [hr hp.1]; exact hm
  | marked => rw [hr hp.1]; exact hm
  | _ => rw [hr hp.1.1]; exact hm

/-- What has been noted down of a stop that has not ended is the beginning of a
    block. -/
theorem StopPhase.Shows.openBlock {r : Roster ι} {call : Nat} {p : StopPhase ι}
    {marks : List (StopMark ι)} (hm : p.Shows r call marks) (hp : p.Sound r)
    (hin : p.isInside = true) : marks = [] ∨ OpenBlock r.server r.dependencies marks := by
  -- What a phase shows is the beginning of a block: nothing, the admission, the server, and then
  -- any number of closings.
  cases p with
  | arriving | queued => cases hin
  | entering => exact Or.inl hm
  | admitted server deps | announced server deps =>
      rw [StopPhase.Shows] at hm
      exact Or.inr (hm ▸ .admitted)
  | draining server name deps =>
      rw [StopPhase.Shows] at hm
      exact Or.inr (hm ▸ .stopping hp.2.1)
  | drained name result deps | spawning deps causes =>
      rcases hm with ⟨server, hserver, rfl⟩
      refine Or.inr ?_
      rw [← List.append_nil (opening call server)]
      exact .closing hserver (List.nil_subperm) .nil
  | closing tasks tray causes =>
      rcases hm with ⟨server, closes, hserver, rfl, hcloses⟩
      refine Or.inr (.closing hserver ?_ hcloses)
      rw [hp.2]
      exact (List.filter_sublist.map Task.who).subperm
  | succeeded | marked =>
      rcases hm with ⟨server, closes, hserver, rfl, hcloses⟩
      exact Or.inr (.closing hserver (List.Subperm.refl _) hcloses)

namespace System

variable {s t : System ι} {call : Nat} {effects : List (Effect ι)} {p q : StopPhase ι}
  {a : Action ι} {o : Outcome} {marks : List (StopMark ι)}

theorem Apart.stopMarks (h : Apart s a t effects) : s.stopMarks a effects = [] := by
  rw [System.stopMarks, List.append_eq_nil_iff]
  constructor
  · -- Whoever takes this step is not a stop.
    cases a with
    | enterStop call =>
        cases hp : s.stopPhase? call with
        | none => simp only [admission, hp]
        | some p => exact absurd rfl (h.caller call p hp)
    | _ => rfl
  · rw [List.filterMap_eq_nil_iff]
    intro e he
    have hsilent := h.silent e he
    cases e with
    | finished call o =>
        rw [Effect.stopMark?, h.unfinished call o he]
        rfl
    | invoked method who | returned method who => cases method <;> first | rfl | cases hsilent
    | _ => rfl

/-- A stop that goes on adds to the notes what its next phase says. -/
theorem StopMove.shows (h : StopMove s call p a effects q) (hphase : s.stopPhase? call = some p)
    (hp : p.Sound s.roster) (hserver : s.roster.initialized = true → s.roster.server.isSome = true)
    (hname : a.breaksOff = false) (hm : p.Shows s.roster call marks) :
    q.Shows (p.rosterAfter s.roster) call (marks ++ s.stopMarks a effects) := by
  -- Before the closings the marks are known one by one, after that up to the order of the closings.
  cases h with
  | accept haccept =>
      rw [StopPhase.Shows] at hm
      simp only [System.stopMarks, admission, hphase, haccept, hm]
      rfl
  | announce => rw [hm]; rfl
  | pass =>
      -- A service that was started has a server.
      have hsome := hserver hp.1.1
      rw [hp.2.1] at hsome
      cases hsome
  | ask => rw [hm]; rfl
  | drained => exact ⟨_, hp.2.1, by rw [hm]; rfl⟩
  | report =>
      rcases hm with ⟨server, hserver, rfl⟩
      exact ⟨server, hserver, rfl⟩
  | @spawn deps causes =>
      rcases hm with ⟨server, hserver, rfl⟩
      have hnone : (spawnEffects call (s.newTasks deps)).filterMap (Effect.stopMark? s) = [] :=
        filterMap_spawnEffects (fun _ => rfl) _
      refine ⟨server, [], hserver, ?_, ?_⟩
      · rw [System.stopMarks, hnone]
        rfl
      · -- No task has begun yet, so none has ended.
        rw [begunOf_newTasks, endedOf_newTasks]
        exact .nil
  | close htask =>
      rcases hm with ⟨server, closes, hserver, rfl, hcloses⟩
      exact ⟨server, _, hserver, List.append_assoc _ _ _, hcloses.of_run htask⟩
  | died htask =>
      -- A dependency that tells its name does not kill its task.
      cases hname
  | closed htask =>
      rcases hm with ⟨server, closes, hserver, rfl, hcloses⟩
      exact ⟨server, _, hserver, List.append_assoc _ _ _, hcloses.of_end htask⟩
  | @take _ _ _ _ closing _ =>
      rcases hm with ⟨server, closes, hserver, rfl, hcloses⟩
      refine ⟨server, closes, hserver, ?_, hcloses⟩
      cases closing <;> exact List.append_nil _
  | setAside _ | bringBack _ =>
      rcases hm with ⟨server, closes, hserver, rfl, hcloses⟩
      exact ⟨server, closes, hserver, List.append_nil _, hcloses⟩
  | succeed _ htasks =>
      rcases hm with ⟨server, closes, hserver, rfl, hcloses⟩
      refine ⟨server, closes, hserver, List.append_nil _, ?_⟩
      change Closings s.roster.dependencies s.roster.dependencies closes
      rw [hp.2]
      exact hcloses.of_finished htasks
  | mark =>
      rcases hm with ⟨server, closes, hserver, rfl, hcloses⟩
      exact ⟨server, closes, hserver, List.append_nil _, hcloses⟩

theorem StopEnd.stopMarks (h : StopEnd s call p a effects o) (hphase : s.stopPhase? call = some p) :
    s.stopMarks a (effects ++ (s.finishStop call o).2) = [.ended call o] := by
  have hfinished : (s.finishStop call o).2.filterMap (Effect.stopMark? s) = [.ended call o] := by
    rw [filterMap_finishStop _ _ _ fun _ => rfl, Effect.stopMark?, hphase]
    rfl
  rw [System.stopMarks, List.filterMap_append, hfinished]
  cases h with
  | refused hrefused => simp only [admission, hphase, hrefused]; rfl
  | nameless | failed _ _ _ | done => rfl

/-- A stop that ends has been refused or leaves a block. -/
theorem StopEnd.segment (h : StopEnd s call p a effects o) (hp : p.Sound s.roster)
    (hname : a.breaksOff = false) (hm : p.Shows s.roster call marks) :
    IsRefusal (marks ++ [.ended call o]) ∨ s.roster.initialized = true ∧
      Block s.roster.server s.roster.dependencies (marks ++ [.ended call o]) := by
  cases h with
  | @refused refusal _ =>
      rw [StopPhase.Shows] at hm
      exact Or.inl ⟨call, refusal, by rw [hm]; rfl⟩
  | nameless => cases hname
  | @failed tasks tray causes _ htasks _ =>
      rcases hm with ⟨server, closes, hserver, rfl, hcloses⟩
      have hall := hcloses.of_finished htasks
      rw [← hp.2] at hall
      exact Or.inr ⟨hp.1.1, .mk hserver hall (Or.inr ⟨causes, rfl⟩)⟩
  | done =>
      rcases hm with ⟨server, closes, hserver, rfl, hcloses⟩
      exact Or.inr ⟨hp.1, .mk hserver hcloses (Or.inl rfl)⟩

/-- The notes come in blocks of the roster as it is, and what follows the last
    block is of the stop that has passed the turnstile. -/
structure Told (s : System ι) (segments : List (List (StopMark ι))) (rest : List (StopMark ι)) :
    Prop where
  segment : ∀ seg ∈ segments, IsRefusal seg ∨ s.roster.initialized = true ∧
    Block s.roster.server s.roster.dependencies seg
  free : s.turnstile.holder = none → rest = []
  shows : ∀ call p, s.stopPhase? call = some p → p.isInside = true → p.Shows s.roster call rest

namespace Told

variable {segments : List (List (StopMark ι))} {rest : List (StopMark ι)}

theorem segment_step (ht : Told s segments rest) (h : s.roster.LeadsTo t.roster) :
    ∀ seg ∈ segments, IsRefusal seg ∨ t.roster.initialized = true ∧
      Block t.roster.server t.roster.dependencies seg := by
  intro seg hseg
  rcases ht.segment seg hseg with hrefusal | ⟨hinit, hblock⟩
  · exact Or.inl hrefusal
  · rcases h.frozen hinit with ⟨hserver, hdeps⟩
    rw [hserver, hdeps]
    exact Or.inr ⟨h.initialized hinit, hblock⟩

/-- A step keeps the notes in blocks. -/
theorem step (ht : Told s segments rest) (hg : s.Gated) (hs : s.Sound)
    (hserver : s.roster.initialized = true → s.roster.server.isSome = true)
    (hname : a.breaksOff = false) (h : Step s a t effects) :
    ∃ segments' rest', segments'.flatten ++ rest' =
      segments.flatten ++ rest ++ s.stopMarks a effects ∧ Told t segments' rest' := by
  -- The segments that are complete stay, and the rest grows by what the step shows.
  have hsegment := ht.segment_step h.leadsTo
  cases h with
  | elsewhere h =>
      have hapart := h.apart
      refine ⟨segments, rest, ?_, hsegment, ?_, fun i p hp hin => ?_⟩
      · rw [hapart.stopMarks, List.append_nil]
      · rw [hapart.turnstile]
        exact ht.free
      · -- A stop that has just begun has not passed, and says nothing.
        rcases hapart.comes i p hp with hp | ⟨rfl, -⟩
        · exact (ht.shows i p hp hin).of_roster (hs i p hp) hapart.roster
        · cases hin
  | @approached call hp =>
      refine ⟨segments, rest, (List.append_nil _).symm, hsegment, ?_, fun i q hq hin => ?_⟩
      · -- Someone holds the turnstile now.
        intro hholder
        cases hh : s.turnstile.holder <;>
          simp only [setStop, setCall, Turnstile.enter, hh, reduceCtorEq] at hholder
      · rw [stopPhase?_setStop hp] at hq
        by_cases hi : i = call
        · rw [if_pos hi, Option.some.injEq] at hq
          -- It passes if nobody holds the turnstile, and then nothing is pending.
          cases hh : s.turnstile.holder with
          | none =>
              rw [hh] at hq
              rw [← hq]
              exact ht.free hh
          | some first =>
              rw [hh] at hq
              rw [← hq] at hin
              cases hin
        · rw [if_neg hi] at hq
          exact ht.shows i q hq hin
  | @stopMoved call p q a shown hp hmove =>
      have hholder := hg.holder hp hmove.isInside.1
      refine ⟨segments, rest ++ s.stopMarks a effects, (List.append_assoc _ _ _).symm, hsegment,
        fun hfree => ?_, fun i q' hq hin => ?_⟩
      · -- The stop that moves holds the turnstile before and after.
        change s.turnstile.holder = none at hfree
        rw [hholder] at hfree
        cases hfree
      · rw [stopPhase?_setStop hp] at hq
        by_cases hi : i = call
        · rw [if_pos hi, Option.some.injEq] at hq
          rw [← hq, hi]
          exact hmove.shows hp (hs call p hp) hserver hname
            (ht.shows call p hp hmove.isInside.1)
        · rw [if_neg hi] at hq
          exact absurd (hg.eq_of_isInside hp hmove.isInside.1 hq hin) hi
  | @stopEnded call p a shown o hp hend =>
      -- What was pending becomes the last segment, and the next stop begins anew.
      refine ⟨segments ++ [rest ++ [.ended call o]], [], ?_, ?_, fun _ => rfl,
        fun i q hq hin => ?_⟩
      · rw [hend.stopMarks hp, List.flatten_append, List.flatten_singleton, List.append_nil,
          List.append_assoc]
      · intro seg hseg
        rcases List.mem_append.mp hseg with hseg | hseg
        · exact hsegment seg hseg
        · rw [List.mem_singleton.mp hseg, roster_finishStop]
          exact hend.segment (hs call p hp) hname (ht.shows call p hp hend.isInside)
      · rw [hg.stopPhase?_finishStop hp hend.isInside] at hq
        split at hq
        · cases hq
        · rename_i hi
          split at hq
          · rw [← Option.some.inj hq]
            rfl
          · exact absurd (hg.eq_of_isInside hp hend.isInside hq hin) hi

end Told

/-- The service was stopped, and the stop that has done it is gone. -/
def IsOver (s : System ι) : Prop :=
  s.roster.stopped = true ∧ ∀ call, s.stopPhase? call ≠ some .marked

theorem finished_of_mem_stopMarks {i : Nat} (h : .ended i o ∈ s.stopMarks a effects) :
    .finished i o ∈ effects := by
  -- A mark of an end is not the admission, so it stems from an effect, and there is one such effect
  -- only.
  rcases List.mem_append.mp h with h | h
  · cases a with
    | enterStop call =>
        rw [admission] at h
        split at h
        · cases List.mem_singleton.mp h
        · cases h
    | _ => cases h
  · rcases List.mem_filterMap.mp h with ⟨e, he, hmark⟩
    cases e with
    | finished call outcome =>
        rcases Option.map_eq_some_iff.mp hmark with ⟨p, -, hmark⟩
        cases hmark
        exact he
    | invoked method who | returned method who => cases method <;> cases hmark
    | _ => cases hmark

/-- A step notes down no end, and nothing at all if the service is stopped, or it
    is the end of a stop and notes down nothing else. -/
theorem Step.stopMarks_cases (hs : s.Sound) (h : Step s a t effects) :
    ((∀ call o, .ended call o ∉ s.stopMarks a effects) ∧
      (s.roster.stopped = true → s.stopMarks a effects = [])) ∨
    ∃ call p shown o, s.stopPhase? call = some p ∧ StopEnd s call p a shown o ∧
      t = (s.finishStop call o).1 ∧ s.stopMarks a effects = [.ended call o] := by
  cases h with
  | elsewhere h =>
      rw [h.apart.stopMarks]
      exact Or.inl ⟨nofun, fun _ => rfl⟩
  | approached hp => exact Or.inl ⟨nofun, fun _ => rfl⟩
  | stopMoved hp hmove =>
      refine Or.inl ⟨fun call o hmem => hmove.unfinished (finished_of_mem_stopMarks hmem), ?_⟩
      intro hstopped
      rw [(hmove.isOpen (hs _ _ hp)).2] at hstopped
      cases hstopped
  | stopEnded hp hend => exact Or.inr ⟨_, _, _, _, hp, hend, rfl, hend.stopMarks hp⟩

/-- After a stop that has ended well there are only stops that come too late. -/
structure Settled (s : System ι) (marks : List (StopMark ι)) : Prop where
  late : marks.Pairwise fun earlier later => (∃ call, earlier = .ended call .done) →
    ∃ call, later = .ended call (.failed StopRefusal.stopped.failure)
  isOver : ∀ call, .ended call .done ∈ marks → s.IsOver

/-- A service that is over stays so. -/
theorem IsOver.step (ho : s.IsOver) (hg : s.Gated) (hs : s.Sound) (h : Step s a t effects) :
    t.IsOver := by
  -- Those who come, and those whom an end lets through, are not further than the entrance.
  refine ⟨h.leadsTo.stopped ho.1, fun i hi => ?_⟩
  cases h with
  | elsewhere h =>
      rcases h.apart.comes i _ hi with hp | ⟨hp, -⟩
      · exact ho.2 i hp
      · cases hp
  | approached hp =>
      rw [stopPhase?_setStop hp] at hi
      split at hi
      · split at hi <;> cases hi
      · exact ho.2 i hi
  | stopMoved hp hmove =>
      -- A stop that moves finds the service open.
      have hopen := (hmove.isOpen (hs _ _ hp)).2
      rw [ho.1] at hopen
      cases hopen
  | stopEnded hp hend =>
      rw [hg.stopPhase?_finishStop hp hend.isInside] at hi
      split at hi
      · cases hi
      · split at hi
        · cases hi
        · exact ho.2 i hi

/-- A stop that ends when the service is over comes too late. -/
theorem IsOver.outcome (ho : s.IsOver) (hinit : s.roster.initialized = true)
    (hphase : s.stopPhase? call = some p) (hp : p.Sound s.roster)
    (h : StopEnd s call p a effects o) : o = .failed StopRefusal.stopped.failure := by
  cases h with
  | refused hrefused => rw [(Roster.stopped_of_admitStop hinit hrefused).2]
  | done => exact absurd hphase (ho.2 call)
  | nameless | failed _ _ _ =>
      have hopen := hp.1.2
      rw [ho.1] at hopen
      cases hopen

namespace Settled

theorem isOver_of_done (hg : s.Gated) (hphase : s.stopPhase? call = some p)
    (hp : p.Sound s.roster) (h : StopEnd s call p a effects .done) :
    (s.finishStop call .done).1.IsOver := by
  have hin := h.isInside
  cases h with
  | done =>
      refine ⟨?_, fun i hi => ?_⟩
      · rw [roster_finishStop]
        exact hp.2
      · rw [hg.stopPhase?_finishStop hphase hin] at hi
        split at hi
        · cases hi
        · rename_i hne
          split at hi
          · cases hi
          · exact hne (hg.eq_of_isInside hphase hin hi rfl)

/-- Whatever is noted down after a stop that has ended well is of one that comes
    too late. -/
theorem step (ht : Settled s marks) (hg : s.Gated) (hs : s.Sound)
    (hinit : s.roster.stopped = true → s.roster.initialized = true) (h : Step s a t effects) :
    Settled t (marks ++ s.stopMarks a effects) := by
  have hover : ∀ call, .ended call .done ∈ marks → t.IsOver :=
    fun call hmem => (ht.isOver call hmem).step hg hs h
  rcases h.stopMarks_cases hs with ⟨hnone, hstopped⟩ | ⟨call, p, shown, o, hphase, hend, rfl, hmarks⟩
  · refine ⟨List.pairwise_append.mpr ⟨ht.late, ?_, ?_⟩, fun call hmem => ?_⟩
    · refine List.pairwise_of_forall_mem_list fun m hm m' _ ⟨call, hdone⟩ => ?_
      exact absurd (hdone ▸ hm) (hnone call .done)
    · -- Nobody is asked for anything in a service that is over.
      rintro m hm m' hm' ⟨call, rfl⟩
      rw [hstopped (ht.isOver call hm).1] at hm'
      cases hm'
    · rcases List.mem_append.mp hmem with hmem | hmem
      · exact hover call hmem
      · exact absurd hmem (hnone call .done)
  · rw [hmarks]
    refine ⟨List.pairwise_append.mpr ⟨ht.late, List.pairwise_singleton _ _, ?_⟩,
      fun other hmem => ?_⟩
    · rintro m hm m' hm' ⟨other, rfl⟩
      have ho := ht.isOver other hm
      rw [List.mem_singleton.mp hm', ho.outcome (hinit ho.1) hphase (hs call p hphase) hend]
      exact ⟨call, rfl⟩
    · rcases List.mem_append.mp hmem with hmem | hmem
      · exact hover other hmem
      · cases List.mem_singleton.mp hmem
        exact isOver_of_done hg hphase (hs call p hphase) hend

end Settled

/-- What every run notes down of its stops comes in blocks: one for each that was
    accepted, of the server that was served and all dependencies that were ever
    attached. -/
theorem stops_in_blocks {settings : Settings} {actions : List (Action ι)}
    (h : (System.initial settings).run actions = some (s, effects))
    (hname : ∀ a ∈ actions, a.breaksOff = false) :
    InBlocks (((System.initial settings).observe System.served actions).head?.map Prod.fst)
      (((System.initial settings).observe System.attached actions).map Prod.fst)
      ((System.initial settings).observe System.stopMarks actions) := by
  have hreach := Reachable.initial.run h
  -- Segments and rest go along with the run, and with them that the end is the end.
  let told (before : List (Action ι)) (s : System ι) : Prop :=
    (∃ segments rest, List.flatten segments ++ rest =
      (System.initial settings).observe System.stopMarks before ∧ Told s segments rest) ∧
    Settled s ((System.initial settings).observe System.stopMarks before)
  have hinv : told actions s := by
    refine run_induction told ?_ ?_ h
    · exact ⟨⟨[], [], rfl, nofun, fun _ => rfl, nofun⟩, List.Pairwise.nil, nofun⟩
    · intro before u shown a v now hpre hrun ⟨⟨segments, rest, hmarks, htold⟩, hsettled⟩ hact
      have hu : Reachable settings u := Reachable.initial.run hrun
      have ha : a.breaksOff = false :=
        hname a (hpre.subset (List.mem_append_right _ (List.mem_singleton_self a)))
      dsimp only [told]
      rw [observe_append_singleton _ hrun hact]
      constructor
      · rcases htold.step hu.gated hu.sound hu.server_of_initialized ha (step_of_act hact)
          with ⟨segments', rest', hmarks', htold'⟩
        exact ⟨segments', rest', by rw [hmarks', hmarks], htold'⟩
      · exact hsettled.step hu.gated hu.sound hu.initialized_of_stopped (step_of_act hact)
  rcases hinv with ⟨⟨segments, rest, hmarks, htold⟩, hsettled⟩
  -- The roster at the end is the one of every block.
  have hroster := enrolled_of_run h
  rw [← hroster.server, ← hroster.dependencies]
  refine ⟨⟨segments, rest, hmarks.symm, fun seg hseg => ?_, ?_⟩, hsettled.late⟩
  · exact (htold.segment seg hseg).imp_right And.right
  · cases hholder : s.turnstile.holder with
    | none => exact Or.inl (htold.free hholder)
    | some call =>
        rcases (hreach.gated.inside call).mp hholder with ⟨p, hp, hin⟩
        exact (htold.shows call p hp hin).openBlock (hreach.sound call p hp) hin

/-- A dependency that was attached twice is closed twice, and a second stop comes
    too late. -/
theorem stops_in_blocks_attached_twice :
    let actions : List (Action Nat) := [.serve (fun _ _ => .ok "api") (some 0),
      .attach (fun _ _ => .ok "db") (some 1), .attach (fun _ _ => .ok "db") (some 1),
      .begin .start, .enterStart 3 (.ok ()), .begin .stop, .begin .stop, .approach 5, .approach 4,
      .enterStop 5, .announceStop 5, .nameForStop 5 (.ok "api"), .endDraining 5 (.ok (.ok ())),
      .reportServer 5, .spawnCloses 5, .runClose 5 0 (.ok "db"), .runClose 5 1 (.ok "db"),
      .endClose 5 1 (.ok (.ok ())), .joinClose 5, .endClose 5 0 (.ok (.ok ())), .joinClose 5,
      .concludeStop 5, .markStopped 5, .announceStopped 5, .enterStop 4]
    let marks : List (StopMark Nat) := [.admitted 5, .invoked .stop 0, .returned .stop 0,
      .invoked .close 1, .invoked .close 1, .returned .close 1, .returned .close 1, .ended 5 .done,
      .ended 4 (.failed StopRefusal.stopped.failure)]
    ∃ s effects, (System.initial Settings.standard).run actions = some (s, effects) ∧
      (System.initial Settings.standard).observe System.stopMarks actions = marks ∧
      InBlocks (some 0) [1, 1] marks := by
  intro actions marks
  have hrun : (System.initial Settings.standard).run actions = some (_, _) := rfl
  exact ⟨_, _, hrun, rfl, stops_in_blocks hrun (by decide)⟩

end System

end Steward
