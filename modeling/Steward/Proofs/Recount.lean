import Steward.Proofs.Report
import Steward.Proofs.Turns

/-!
# What Is Told of a Call That Goes On

The part of a chronicle that belongs to one start or one stop, by its phase.

What a stop has told by then is a beginning of its block, and the phase says which.
The record of a stop (`StopPhase.Records`) has all that happened in it, by names that
participants gave on the way; a participant that tells the same name whenever it is
asked is found in it under that name (`NamedBy`). So the record of a stop that has
looked at everything is the work of a block, with one notice for every dependency that
was attached, and the record of one that has not is part of such work.

A stop that marks the service as stopped owes the log only its last notice. With that
its block is complete, so nothing is said of it any more in that phase.

## Main definitions

* `StopRecord.NamedBy`, `StopPhase.NamedBy`: The names are those of the participants.
* `StopPhase.Recounts`, `StartPhase.Recounts`: What has been told of a stop, or of a
  start, by its phase.

## Theorems

* `StopMove.namedBy`: A stop that goes on keeps to the names.
* `Joined.stopBlock_stopped`, `Joined.stopBlock_failed`: The record of a stop that has
  looked at everything makes a block.
* `StopPhase.Recounts.stopBlock_stopped`, `StopPhase.Recounts.stopBlock_failed`: Only its
  last notice is missing from what such a stop has told.
* `StopMove.recounts`: A stop that goes on tells what its next phase says.
* `StopPhase.Recounts.openStop`: What has been told of a stop can be completed.
-/

namespace Steward

variable {ι : Type} {nameOf : ι → String} {r : Roster ι} {rec : StopRecord ι}

/-- The record of a stop is about the participants of a roster by their names, and no
    dependency was unable to tell it. -/
structure StopRecord.NamedBy (nameOf : ι → String) (r : Roster ι) (rec : StopRecord ι) : Prop where
  drained : ∀ d ∈ rec.drained, r.server.map nameOf = some d.1
  ended : ∀ e ∈ rec.ended, ∃ result, e.2 = .returned (nameOf e.1) result

/-- The names that a stop holds on to are those of the participants. -/
def StopPhase.NamedBy (nameOf : ι → String) : StopPhase ι → Prop
  | .draining server name _ => name = nameOf server
  | .closing tasks _ _ =>
    ∀ task ∈ tasks, ∀ name, task.state = .running name → name = nameOf task.who
  | _ => True

/-- The name that a closing is told by, if anything is told of it. -/
def Closing.name? : Closing → Option String
  | .returned name _ => some name
  | .died _ => none

/-- What has been told of the block of a stop by its phase, what is owed included. -/
inductive StopPhase.Recounts (nameOf : ι → String) (r : Roster ι) :
    StopPhase ι → List Notice → Prop where
  | marked : Recounts nameOf r .marked []
  | unmarked {p : StopPhase ι} {rec : StopRecord ι} (hunmarked : p ≠ .marked)
      (hrecords : p.Records r rec) (hphase : p.NamedBy nameOf) (hrec : rec.NamedBy nameOf r) :
    Recounts nameOf r p rec.notices

/-- What an accepted start has told since it was announced. The server is known by its
    name. -/
def StartPhase.Recounts (nameOf : ι → String) (server : String) (told : List Notice) :
    StartPhase ι → Prop
  | .entering => True
  | .admitted who => nameOf who = server ∧ told = []
  | .named _ name | .announced _ name => name = server ∧ told = []
  | .waiting name exited => name = server ∧ told = if exited then [exitedNotice server] else []

namespace StopRecord.NamedBy

theorem empty (nameOf : ι → String) (r : Roster ι) : NamedBy nameOf r {} :=
  ⟨List.forall_mem_nil _, List.forall_mem_nil _⟩

theorem append {rec' : StopRecord ι} (h : rec.NamedBy nameOf r) (h' : rec'.NamedBy nameOf r) :
    (rec.append rec').NamedBy nameOf r :=
  ⟨List.forall_mem_append.mpr ⟨h.drained, h'.drained⟩,
    List.forall_mem_append.mpr ⟨h.ended, h'.ended⟩⟩

/-- What was drained is the server. -/
theorem server_eq (h : rec.NamedBy nameOf r) {server : ι} {name : String} {result : Return}
    (hserver : r.server = some server) (hdrained : rec.drained = [(name, result)]) :
    name = nameOf server := by
  have hname := h.drained (name, result) (hdrained ▸ List.mem_singleton.mpr rfl)
  rw [hserver, Option.map_some, Option.some.injEq] at hname
  exact hname.symm

/-- Every closing that has ended is told of by the name of its dependency. -/
theorem names_eq (h : rec.NamedBy nameOf r) :
    (rec.ended.map Prod.snd).filterMap Closing.name? = (rec.ended.map Prod.fst).map nameOf := by
  rw [List.filterMap_map, List.map_map, ← List.filterMap_eq_map]
  refine List.filterMap_congr fun e he => ?_
  rcases h.ended e he with ⟨result, hreturned⟩
  rw [Function.comp_apply, hreturned]
  rfl

theorem exists_returned (h : rec.NamedBy nameOf r) {closing : Closing}
    (hmem : closing ∈ rec.ended.map Prod.snd) : ∃ name result, closing = .returned name result := by
  rcases List.mem_map.mp hmem with ⟨e, he, rfl⟩
  rcases h.ended e he with ⟨result, hreturned⟩
  exact ⟨nameOf e.1, result, hreturned⟩

end StopRecord.NamedBy

section Work

variable {name : String} {result : Return} {server : ι}

/-- What is told of closings is told under their names. -/
theorem forall₂_notices (closings : List Closing) :
    List.Forall₂ (Notice.TellsOf .dependencyClosed) (closings.filterMap Closing.name?)
      (closings.filterMap Closing.notice?) := by
  induction closings with
  | nil => exact .nil
  | cons closing rest ih =>
      cases closing with
      | returned name result => exact .cons ⟨result, rfl⟩ ih
      | died _ => exact ih

theorem stopWork_told (rec : StopRecord ι) (name : String) (result : Return) :
    StopWork name (rec.taken.filterMap Closing.name?) (rec.told name result) :=
  .mk ⟨guarded name result, rfl⟩ (forall₂_notices rec.taken)

theorem kind_closeNotice_of_error {good : EventKind} {result : Except Cause Unit}
    (h : System.causeOf result ≠ []) :
    (System.closeNotice good name result).kind = .closeFailed := by
  cases result with
  | ok _ => exact absurd rfl h
  | error _ => rfl

theorem kind_closeNotice_of_ok {good : EventKind} {result : Except Cause Unit}
    (h : System.causeOf result = []) : (System.closeNotice good name result).kind = good := by
  cases result with
  | ok _ => rfl
  | error _ => cases h

/-- A stop that has met no cause of failure has told of none. -/
theorem told_of_well (h : rec.causes name result = []) :
    ∀ n ∈ rec.told name result, n.kind ≠ .closeFailed := by
  rw [StopRecord.causes, List.append_eq_nil_iff, List.flatMap_eq_nil_iff] at h
  intro n hmem
  rcases List.mem_cons.mp hmem with rfl | hmem
  · exact EventKind.noConfusion
  rcases List.mem_cons.mp hmem with rfl | hmem
  · rw [kind_closeNotice_of_ok (by rw [causeOf_guarded]; exact h.1)]
    exact EventKind.noConfusion
  · rcases List.mem_filterMap.mp hmem with ⟨closing, htaken, hnotice⟩
    rcases Closing.causes_eq_nil_iff.mp (h.2 closing htaken) with ⟨who, rfl⟩
    rw [← Option.some.inj hnotice]
    exact EventKind.noConfusion

/-- A stop that has met a cause of failure has told of it, as long as no task has
    died. -/
theorem told_of_failed (h : rec.causes name result ≠ [])
    (hreturned : ∀ closing ∈ rec.taken, ∃ name result, closing = .returned name result) :
    ∃ n ∈ rec.told name result, n.kind = .closeFailed := by
  by_cases hserver : blame name result = []
  · -- It was not the server, so it was one of the dependencies.
    have hcloses : rec.taken.flatMap Closing.causes ≠ [] := by
      intro hnone
      exact h (by rw [StopRecord.causes, hserver, hnone, List.append_nil])
    rw [ne_eq, List.flatMap_eq_nil_iff] at hcloses
    simp only [not_forall] at hcloses
    rcases hcloses with ⟨closing, htaken, hcause⟩
    rcases hreturned closing htaken with ⟨who, result', rfl⟩
    have hmem : System.closeNotice .dependencyClosed who result' ∈ rec.told name result :=
      List.mem_cons_of_mem _ (List.mem_cons_of_mem _ (List.mem_filterMap.mpr ⟨_, htaken, rfl⟩))
    exact ⟨_, hmem, kind_closeNotice_of_error hcause⟩
  · rw [← causeOf_guarded] at hserver
    exact ⟨_, List.mem_cons_of_mem _ List.mem_cons_self, kind_closeNotice_of_error hserver⟩

/-- All dependencies are told of, each as often as it is there. -/
theorem Joined.names_perm (h : Joined r.dependencies name result rec)
    (hrec : rec.NamedBy nameOf r) :
    (rec.taken.filterMap Closing.name?).Perm (r.dependencies.map nameOf) := by
  have htaken := h.taken.filterMap Closing.name?
  rw [hrec.names_eq] at htaken
  exact htaken.trans (h.ended.map nameOf)

theorem Joined.stopWork (h : Joined r.dependencies name result rec) (hrec : rec.NamedBy nameOf r)
    (hserver : r.server = some server) :
    StopWork (nameOf server) (rec.taken.filterMap Closing.name?) rec.notices := by
  rw [h.notices, ← hrec.server_eq hserver h.drained]
  exact stopWork_told rec name result

/-- Nothing has failed, so the block tells of nothing that has. -/
theorem Joined.stopBlock_stopped (h : Joined r.dependencies name result rec)
    (hrec : rec.NamedBy nameOf r) (hserver : r.server = some server)
    (hwell : rec.causes name result = []) :
    StopBlock (nameOf server) (r.dependencies.map nameOf) true (rec.notices ++ [stoppedNotice]) :=
  .stopped (h.names_perm hrec) (h.stopWork hrec hserver) (h.notices ▸ told_of_well hwell)

theorem Joined.stopBlock_failed (h : Joined r.dependencies name result rec)
    (hrec : rec.NamedBy nameOf r) (hserver : r.server = some server)
    (hfailed : rec.causes name result ≠ []) (reason : Option String) :
    StopBlock (nameOf server) (r.dependencies.map nameOf) false
      (rec.notices ++ [{ kind := .stopFailed, reason }]) := by
  refine .failed (h.names_perm hrec) (h.stopWork hrec hserver) (h.notices ▸ ?_) reason
  exact told_of_failed hfailed fun closing htaken =>
    hrec.exists_returned (h.taken.mem_iff.mp htaken)

/-- Of a stop that still looks at closings, those that it has looked at are told of. -/
theorem Joining.names_subperm {tasks : List (Task ι)} {tray : Tray Closing} {causes : List Cause}
    (h : Joining name result tasks tray causes rec) (hrec : rec.NamedBy nameOf r)
    (hdeps : r.dependencies = tasks.map Task.who) :
    (rec.taken.filterMap Closing.name?).Subperm (r.dependencies.map nameOf) := by
  have htaken := h.taken.filterMap Closing.name?
  rw [hrec.names_eq, List.filterMap_append] at htaken
  have hended := (h.ended.map nameOf).subperm
  have hsub : ((endedOf tasks).map nameOf).Subperm (r.dependencies.map nameOf) := by
    rw [hdeps]
    exact ((List.filter_sublist.map Task.who).map nameOf).subperm
  exact ((List.sublist_append_left _ _).subperm.trans htaken.subperm).trans (hended.trans hsub)

end Work

/-- Nothing has been told of a stop that has just passed the turnstile. -/
theorem StopPhase.Recounts.entering (nameOf : ι → String) (r : Roster ι) :
    StopPhase.Recounts nameOf r .entering [] := by
  have hrecords : StopPhase.Records r {} .entering := rfl
  refine .unmarked (fun hmarked => ?_) hrecords trivial (.empty nameOf r)
  cases hmarked

/-- What has been told of a stop that has passed the turnstile is nothing, or can be
    completed to a block. -/
theorem StopPhase.Recounts.openStop {p : StopPhase ι} {rest : List Notice} {server : ι}
    (h : p.Recounts nameOf r rest) (hp : p.Sound r) (hin : p.isInside = true)
    (hserver : r.server = some server) :
    rest = [] ∨
      r.stopped = false ∧ OpenStop (nameOf server) (r.dependencies.map nameOf) rest := by
  cases h with
  | marked => exact Or.inl rfl
  | @unmarked _ rec hunmarked hrecords hphase hrec =>
      cases p with
      | arriving | queued => cases hin
      | entering | admitted _ _ =>
          rw [StopPhase.Records] at hrecords
          rw [hrecords]
          exact Or.inl rfl
      | announced _ _ | draining _ _ _ =>
          rw [StopPhase.Records] at hrecords
          rw [hrecords]
          exact Or.inr ⟨hp.1.2, .begun⟩
      | drained name answer deps =>
          rcases hrecords with ⟨answer, -, rfl⟩
          exact Or.inr ⟨hp.1.2, .begun⟩
      | spawning deps causes =>
          rcases hrecords with ⟨name, answer, -, rfl⟩
          have hname : name = nameOf server := hrec.server_eq hserver rfl
          -- Of the dependencies nothing has been told yet.
          have hwork : StopWork (nameOf server) [] [stoppingNotice,
              System.closeNotice .serverStopped name (guarded name answer)] :=
            .mk ⟨guarded name answer, by rw [hname]⟩ .nil
          exact Or.inr ⟨hp.1.2, .working List.nil_subperm hwork⟩
      | closing tasks tray causes =>
          -- The events so far name each dependency at most once.
          rcases hrecords with ⟨name, answer, hjoining⟩
          refine Or.inr ⟨hp.1.2, .working (hjoining.names_subperm hrec hp.2) ?_⟩
          rw [hjoining.notices, ← hrec.server_eq hserver hjoining.drained]
          exact stopWork_told rec name answer
      | succeeded =>
          -- All have been told of, and the mark is still to come.
          rcases hrecords with ⟨name, answer, hjoined, -⟩
          exact Or.inr ⟨hp.2, .working (hjoined.names_perm hrec).subperm
            (hjoined.stopWork hrec hserver)⟩
      | marked => exact absurd rfl hunmarked

/-- What a stop has told that has met no failure is a block but for its last notice. -/
theorem StopPhase.Recounts.stopBlock_stopped {rest : List Notice} {server : ι}
    (h : StopPhase.Recounts nameOf r .succeeded rest) (hserver : r.server = some server) :
    StopBlock (nameOf server) (r.dependencies.map nameOf) true (rest ++ [stoppedNotice]) := by
  cases h with
  | unmarked _ hrecords _ hrec =>
      rcases hrecords with ⟨name, result, hjoined, hwell⟩
      exact hjoined.stopBlock_stopped hrec hserver hwell

/-- And so is what a stop has told that has met one, once it has looked at everything. -/
theorem StopPhase.Recounts.stopBlock_failed {tasks : List (Task ι)} {tray : Tray Closing}
    {causes : List Cause} {rest : List Notice} {server : ι}
    (h : StopPhase.Recounts nameOf r (.closing tasks tray causes) rest)
    (hdeps : r.dependencies = tasks.map Task.who) (htray : tray.isEmpty = true)
    (htasks : ∀ task ∈ tasks, task.state = .finished) (hserver : r.server = some server)
    (hcauses : causes ≠ []) (reason : Option String) :
    StopBlock (nameOf server) (r.dependencies.map nameOf) false
      (rest ++ [{ kind := .stopFailed, reason }]) := by
  cases h with
  | unmarked _ hrecords _ hrec =>
      rcases hrecords with ⟨name, result, hjoining⟩
      have hjoined := hjoining.joined htray htasks
      rw [← hdeps] at hjoined
      have hfailed := hjoining.causes_eq ▸ hcauses
      exact hjoined.stopBlock_failed hrec hserver hfailed reason

namespace System

variable {s : System ι} {call : Nat} {effects : List (Effect ι)} {p q : StopPhase ι}
  {a : Action ι}

/-- A stop that goes on keeps to the names, as long as participants tell them. -/
theorem StopMove.namedBy (h : StopMove s call p a effects q) (hphase : s.stopPhase? call = some p)
    (hp : p.Sound s.roster) (hnames : ∀ e ∈ s.namesGiven a effects, e.2 = .ok (nameOf e.1))
    (hkept : p.NamedBy nameOf) :
    q.NamedBy nameOf ∧ (s.seen call a effects).NamedBy nameOf s.roster := by
  have hseen := seen_eq s h.caller effects
  -- Of most steps nothing is written down that has a name.
  have hquiet : (s.seenWork call a).drained = [] → (s.seenWork call a).ended = [] →
      (s.seen call a effects).NamedBy nameOf s.roster := by
    intro hdrained hended
    rw [hseen]
    refine ⟨?_, ?_⟩
    · rw [hdrained]
      exact List.forall_mem_nil _
    · rw [hended]
      exact List.forall_mem_nil _
  cases h with
  | accept _ | announce | pass | report | mark => exact ⟨trivial, hquiet rfl rfl⟩
  | succeed _ _ => exact ⟨trivial, hquiet rfl rfl⟩
  | @ask server deps name =>
      exact ⟨Except.ok.inj (answer_of_nameForStop hnames hphase), hquiet rfl rfl⟩
  | @drained server name deps result =>
      refine ⟨trivial, ?_⟩
      rw [hseen, seenWork_endDraining hphase]
      refine ⟨List.forall_mem_singleton.mpr ?_, List.forall_mem_nil _⟩
      rw [hp.2.1, Option.map_some, ← hkept]
  | @spawn deps causes =>
      refine ⟨fun task htask name hrunning => ?_, hquiet rfl rfl⟩
      -- No task has begun.
      rcases List.mem_map.mp htask with ⟨entry, -, rfl⟩
      cases hrunning
  | @close tasks tray causes place number who name htask =>
      refine ⟨fun task hmem name' hrunning => ?_, hquiet rfl rfl⟩
      rcases List.mem_or_eq_of_mem_set hmem with hmem | rfl
      · exact hkept task hmem name' hrunning
      · rw [← TaskState.running.inj hrunning]
        exact Except.ok.inj (answer_of_runClose hnames hphase htask)
  | @died tasks tray causes place number who panic htask =>
      -- A dependency that tells its name does not kill its task.
      cases answer_of_runClose hnames hphase htask
  | @closed tasks tray causes place number who name result htask =>
      have hname : name = nameOf who := hkept _ (List.mem_of_getElem? htask) name rfl
      refine ⟨fun task hmem name' hrunning => ?_, ?_⟩
      · rcases List.mem_or_eq_of_mem_set hmem with hmem | rfl
        · exact hkept task hmem name' hrunning
        · cases hrunning
      · rw [hseen, seenWork_endClose hphase htask]
        refine ⟨List.forall_mem_nil _, List.forall_mem_singleton.mpr ⟨guarded name result, ?_⟩⟩
        rw [hname]
  | take htake =>
      refine ⟨hkept, hquiet ?_ ?_⟩ <;> rw [seenWork_joinClose hphase htake]
  | setAside _ =>
      refine ⟨hkept, hquiet ?_ ?_⟩ <;> rw [seenWork_setAside hphase]
  | bringBack _ => exact ⟨hkept, hquiet rfl rfl⟩

/-- A stop that goes on tells what its next phase says. Only the marking of the service
    is not among these steps, since it completes the block. -/
theorem StopMove.recounts {rest : List Notice} (h : StopMove s call p a effects q)
    (hphase : s.stopPhase? call = some p) (hp : p.Sound s.roster)
    (hserver : s.roster.initialized = true → s.roster.server.isSome = true)
    (hnames : ∀ e ∈ s.namesGiven a effects, e.2 = .ok (nameOf e.1)) (hmark : q ≠ .marked)
    (hm : p.Recounts nameOf s.roster rest) :
    p.rosterAfter s.roster = s.roster ∧
      q.Recounts nameOf s.roster (rest ++ publishedIn effects) := by
  cases hm with
  | marked => cases h
  | @unmarked _ rec hunmarked hrecords hkept hrec =>
      -- Only a stop that has marked the service has changed the roster.
      have hsince : s.roster = p.rosterSince s.roster := by
        cases p with
        | marked => exact absurd rfl hunmarked
        | _ => rfl
      rcases h.namedBy hphase hp hnames hkept with ⟨hkept', hseen⟩
      rcases h.records hphase hp hserver hsince hrecords with ⟨hrecords', hroster⟩
      have hnotices : (rec.append (s.seen call a effects)).notices =
          rec.notices ++ publishedIn effects := by
        rw [seen_eq s h.caller]
        rfl
      rw [← hnotices]
      -- This move is not the mark, so neither is the phase after it.
      refine ⟨?_, .unmarked hmark hrecords' hkept' (hrec.append hseen)⟩
      cases q with
      | marked => exact absurd rfl hmark
      | _ => exact hroster

end System

end Steward
