import Steward.Proofs.Closings
import Steward.Service

/-!
# What Is Written Down of a Stop

The record of a stop, and how it grows while the stop looks at its closings.

A stop deals with one participant after the other and keeps no list of them.
`StopRecord` is what an observer writes down of it: how the server's stopping has
ended, whom the stop has asked to close, how each closing has ended and in which
order, in which order the stop has looked at them, and what it has published.
`System.record` collects it along a run.

The stop looks at closings in the order in which they have ended, unless it
gives way to others. What it has put aside by then comes back behind all that
has ended meanwhile. So in general the two orders are permutations of each
other, and they are equal if nothing was put aside. `Joining` keeps both, along
with what the tasks say: who has begun was asked or has died, and who has ended
was looked at or is on the tray.

## Main definitions

* `blame`: What the work of a participant adds to the failure of a stop.
* `StopRecord`, `System.record`: What is written down of a stop.
* `Joining`, `Joined`: The record of a stop that looks at its closings, and of one
  that has looked at them all.

## Theorems

* `record_append_singleton`: One more action adds what is seen of its step.
* `seenWork_endDraining`, `seenWork_runClose_error`, `seenWork_endClose`,
  `seenWork_joinClose`, `seenWork_setAside`: The steps in which there is work to be seen.
* `Joining.of_asked`, `Joining.of_ended`, `Joining.of_take`, `Joining.of_setAside`,
  `Joining.of_bringBack`: The record grows with the tasks and the tray.
* `Joining.joined`: In the end everything was looked at.
-/

namespace Steward

variable {ι : Type}

/-- What the work of a participant adds to the failure of a stop: nothing, its own
    error, or that it has panicked. -/
def blame (name : String) : Return → List Cause
  | .ok (.ok ()) => []
  | .ok (.error cause) => [cause]
  | .error p => [.failure (panicFailure name p)]

theorem causeOf_guarded (name : String) (result : Return) :
    System.causeOf (guarded name result) = blame name result := by
  rcases result with p | (cause | _) <;> rfl

/-- What is written down of a stop. -/
structure StopRecord (ι : Type) where
  /-- The events it has published. -/
  notices : List Notice := []
  /-- How the stopping of the server has ended, with the name it is reported by. -/
  drained : List (String × Return) := []
  /-- The dependencies that it has asked to close. -/
  asked : List ι := []
  /-- The closings in the order in which they have ended. -/
  ended : List (ι × Closing) := []
  /-- The closings in the order in which the stop has looked at them. -/
  taken : List Closing := []
  /-- The closings that were put aside when the stop gave way. -/
  aside : List Closing := []

/-- Whether a closing is that of a task that died. -/
def Closing.isDead : Closing → Bool
  | .died _ => true
  | .returned _ _ => false

/-- One record behind another. -/
def StopRecord.append (r r' : StopRecord ι) : StopRecord ι where
  notices := r.notices ++ r'.notices
  drained := r.drained ++ r'.drained
  asked := r.asked ++ r'.asked
  ended := r.ended ++ r'.ended
  taken := r.taken ++ r'.taken
  aside := r.aside ++ r'.aside

/-- The dependencies whose tasks have died. -/
def StopRecord.dead (rec : StopRecord ι) : List ι :=
  (rec.ended.filter fun e => e.2.isDead).map Prod.fst

/-- The dependencies that are asked to close. -/
def askedIn (effects : List (Effect ι)) : List ι :=
  effects.filterMap fun
    | .invoked .close who => some who
    | _ => none

namespace System

/-- What is seen of the participants in a step of a stop. -/
def seenWork (s : System ι) (call : Nat) (a : Action ι) : StopRecord ι :=
  match a, s.stopPhase? call with
  | .endDraining _ result, some (.draining _ name _) => { drained := [(name, result)] }
  | .runClose _ place (.error p), some (.closing tasks _ _) =>
    match tasks[place]? with
    | some task => { ended := [(task.who, .died (.died task.number p))] }
    | none => {}
  | .endClose _ place result, some (.closing tasks _ _) =>
    match tasks[place]? with
    | some ⟨_, who, .running name⟩ => { ended := [(who, .returned name (guarded name result))] }
    | _ => {}
  | .joinClose _, some (.closing _ tray _) => { taken := tray.ended.take 1 }
  | .setAside _, some (.closing _ tray _) => { aside := tray.ended.take 1 }
  | _, _ => {}

/-- What is written down of one stop in a step. -/
def seen (call : Nat) (s : System ι) (a : Action ι) (effects : List (Effect ι)) : StopRecord ι :=
  if a.call? = some call then
    { s.seenWork call a with notices := publishedIn effects, asked := askedIn effects }
  else {}

/-- What is written down of one stop in a run. -/
def record (s : System ι) (call : Nat) (actions : List (Action ι)) : StopRecord ι where
  notices := s.observe (fun s a effects => (s.seen call a effects).notices) actions
  drained := s.observe (fun s a effects => (s.seen call a effects).drained) actions
  asked := s.observe (fun s a effects => (s.seen call a effects).asked) actions
  ended := s.observe (fun s a effects => (s.seen call a effects).ended) actions
  taken := s.observe (fun s a effects => (s.seen call a effects).taken) actions
  aside := s.observe (fun s a effects => (s.seen call a effects).aside) actions

theorem record_append_singleton {s t u : System ι} {as : List (Action ι)} {a : Action ι}
    {effects shown : List (Effect ι)} (call : Nat) (h : s.run as = some (t, effects))
    (hact : t.act a = some (u, shown)) :
    s.record call (as ++ [a]) = (s.record call as).append (t.seen call a shown) := by
  simp only [record, observe_append_singleton _ h hact, StopRecord.append]

theorem seen_eq (s : System ι) {call : Nat} {a : Action ι} (h : a.call? = some call)
    (effects : List (Effect ι)) :
    s.seen call a effects =
      { s.seenWork call a with notices := publishedIn effects, asked := askedIn effects } := by
  rw [seen, if_pos h]

theorem seen_eq_empty {s : System ι} {call : Nat} {a : Action ι} (h : a.call? ≠ some call)
    (effects : List (Effect ι)) : s.seen call a effects = {} := by
  rw [seen, if_neg h]

section Work

variable {s : System ι} {call : Nat} {tasks : List (Task ι)} {tray rest : Tray Closing}
  {causes : List Cause} {place number : Nat} {who : ι}

theorem seenWork_endDraining {server : ι} {name : String} {deps : List ι}
    (hphase : s.stopPhase? call = some (.draining server name deps)) (result : Return) :
    s.seenWork call (.endDraining call result) = { drained := [(name, result)] } := by
  simp only [seenWork, hphase]

theorem seenWork_runClose_error (hphase : s.stopPhase? call = some (.closing tasks tray causes))
    (htask : tasks[place]? = some ⟨number, who, .spawned⟩) (p : Panic) :
    s.seenWork call (.runClose call place (.error p)) =
      { ended := [(who, .died (.died number p))] } := by
  simp only [seenWork, hphase, htask]

theorem seenWork_endClose {name : String}
    (hphase : s.stopPhase? call = some (.closing tasks tray causes))
    (htask : tasks[place]? = some ⟨number, who, .running name⟩) (result : Return) :
    s.seenWork call (.endClose call place result) =
      { ended := [(who, .returned name (guarded name result))] } := by
  simp only [seenWork, hphase, htask]

theorem seenWork_joinClose {closing : Closing}
    (hphase : s.stopPhase? call = some (.closing tasks tray causes))
    (htake : tray.take? = some (closing, rest)) :
    s.seenWork call (.joinClose call) = { taken := [closing] } := by
  rcases tray with ⟨ended, aside⟩
  cases ended with
  | nil => cases htake
  | cons first ended =>
      rcases Prod.mk.inj (Option.some.inj htake) with ⟨rfl, -⟩
      simp only [seenWork, hphase, List.take_succ_cons, List.take_zero]

theorem seenWork_setAside (hphase : s.stopPhase? call = some (.closing tasks tray causes)) :
    s.seenWork call (.setAside call) = { aside := tray.ended.take 1 } := by
  simp only [seenWork, hphase]

end Work

end System

theorem StopRecord.append_empty (rec : StopRecord ι) : rec.append {} = rec := by
  simp only [append, List.append_nil]

theorem StopRecord.append_asked (rec : StopRecord ι) (more : List ι) :
    rec.append { asked := more } = { rec with asked := rec.asked ++ more } := by
  simp only [append, List.append_nil]

theorem StopRecord.append_ended (rec : StopRecord ι) (more : List (ι × Closing)) :
    rec.append { ended := more } = { rec with ended := rec.ended ++ more } := by
  simp only [append, List.append_nil]

theorem StopRecord.append_taken (rec : StopRecord ι) (more : List Closing) (notices : List Notice) :
    rec.append { taken := more, notices := notices } =
      { rec with taken := rec.taken ++ more, notices := rec.notices ++ notices } := by
  simp only [append, List.append_nil]

theorem StopRecord.append_aside (rec : StopRecord ι) (more : List Closing) :
    rec.append { aside := more } = { rec with aside := rec.aside ++ more } := by
  simp only [append, List.append_nil]

theorem StopRecord.dead_append (rec rec' : StopRecord ι) :
    (rec.append rec').dead = rec.dead ++ rec'.dead := by
  simp only [dead, append, List.filter_append, List.map_append]

theorem StopRecord.append_notices (rec : StopRecord ι) (more : List Notice) :
    rec.append { notices := more } = { rec with notices := rec.notices ++ more } := by
  simp only [append, List.append_nil]

/-- The causes that a stop has met, by its record. -/
def StopRecord.causes (rec : StopRecord ι) (name : String) (result : Return) : List Cause :=
  blame name result ++ rec.taken.flatMap Closing.causes

/-- The events of a stop up to the last closing that it has looked at. -/
def StopRecord.told (rec : StopRecord ι) (name : String) (result : Return) : List Notice :=
  { kind := .serviceStopping } :: System.closeNotice .serverStopped name (guarded name result) ::
    rec.taken.filterMap Closing.notice?

/-- The record of a stop that looks at its closings. -/
structure Joining (name : String) (result : Return) (tasks : List (Task ι)) (tray : Tray Closing)
    (causes : List Cause) (rec : StopRecord ι) : Prop where
  drained : rec.drained = [(name, result)]
  notices : rec.notices = rec.told name result
  causes_eq : causes = rec.causes name result
  /-- A task that has begun has asked its dependency or died. -/
  asked : (rec.asked ++ rec.dead).Perm (begunOf tasks)
  ended : (rec.ended.map Prod.fst).Perm (endedOf tasks)
  /-- Whatever has ended was looked at or will be. -/
  taken : (rec.taken ++ tray.toList).Perm (rec.ended.map Prod.snd)
  inOrder : rec.aside = [] → tray.aside = [] ∧ rec.taken ++ tray.ended = rec.ended.map Prod.snd

/-- The record of a stop that has looked at the closings of all dependencies. -/
structure Joined (deps : List ι) (name : String) (result : Return) (rec : StopRecord ι) :
    Prop where
  drained : rec.drained = [(name, result)]
  notices : rec.notices = rec.told name result
  asked : (rec.asked ++ rec.dead).Perm deps
  ended : (rec.ended.map Prod.fst).Perm deps
  taken : rec.taken.Perm (rec.ended.map Prod.snd)
  inOrder : rec.aside = [] → rec.taken = rec.ended.map Prod.snd

namespace Joining

variable {name : String} {result : Return} {tasks tasks' : List (Task ι)}
  {tray rest : Tray Closing} {causes : List Cause} {rec : StopRecord ι}

/-- A task begins and asks its dependency to close. -/
theorem of_asked {who : ι} (h : Joining name result tasks tray causes rec)
    (hbegun : (begunOf tasks').Perm (who :: begunOf tasks))
    (hended : endedOf tasks' = endedOf tasks) :
    Joining name result tasks' tray causes (rec.append { asked := [who] }) := by
  have hasked : ((rec.asked ++ [who]) ++ rec.dead).Perm (begunOf tasks') := by
    rw [List.append_assoc]
    exact List.perm_middle.trans ((h.asked.cons who).trans hbegun.symm)
  rw [StopRecord.append_asked]
  exact ⟨h.drained, h.notices, h.causes_eq, hasked, hended ▸ h.ended, h.taken, h.inOrder⟩

/-- A closing ends and comes last on the tray. -/
theorem of_ended {who : ι} {closing : Closing} (h : Joining name result tasks tray causes rec)
    (hbegun : (begunOf tasks').Perm ((if closing.isDead then [who] else []) ++ begunOf tasks))
    (hended : (endedOf tasks').Perm (who :: endedOf tasks)) :
    Joining name result tasks' (tray.add closing) causes
      (rec.append { ended := [(who, closing)] }) := by
  -- If its task died it was not asked, but it has begun with that.
  have hdead : (rec.append { ended := [(who, closing)] }).dead =
      rec.dead ++ if closing.isDead then [who] else [] := by
    rw [StopRecord.dead_append]
    cases closing <;> rfl
  have hasked : (rec.asked ++ (rec.append { ended := [(who, closing)] }).dead).Perm
      (begunOf tasks') := by
    rw [hdead, ← List.append_assoc]
    exact List.perm_append_comm.trans ((h.asked.append_left _).trans hbegun.symm)
  rw [StopRecord.append_ended] at hasked ⊢
  refine ⟨h.drained, h.notices, h.causes_eq, hasked, ?_, ?_, fun haside => ?_⟩
  · rw [List.map_append]
    -- The record puts whoever ended last at its end, and the tasks know no such order.
    exact (List.perm_append_singleton _ _).trans ((h.ended.cons who).trans hended.symm)
  · rw [List.map_append]
    -- It is put on the tray or aside, and taken from neither.
    have hadd := (tray.toList_add closing).append_left rec.taken
    refine hadd.trans (List.perm_middle.trans ?_)
    exact (h.taken.cons closing).trans (List.perm_append_singleton _ _).symm
  · -- With nothing set aside the tray keeps the order in which the tasks ended.
    rcases h.inOrder haside with ⟨hempty, horder⟩
    refine ⟨hempty, ?_⟩
    rw [List.map_append, Tray.add, ← List.append_assoc, horder]
    rfl

/-- The stop looks at the first closing on the tray. -/
theorem of_take {closing : Closing} (h : Joining name result tasks tray causes rec)
    (htake : tray.take? = some (closing, rest)) :
    Joining name result tasks rest (causes ++ closing.causes)
      (rec.append { taken := [closing], notices := closing.notice?.toList }) := by
  rcases tray with ⟨ended, aside⟩
  cases ended with
  | nil => cases htake
  | cons first ended =>
      rcases Prod.mk.inj (Option.some.inj htake) with ⟨rfl, rfl⟩
      rw [StopRecord.append_taken]
      refine ⟨h.drained, ?_, ?_, h.asked, h.ended, ?_, fun haside => ?_⟩
      · -- What is told of a closing depends on that closing alone.
        have hnotices := h.notices
        cases hnotice : first.notice? <;>
          simp only [StopRecord.told, hnotices, hnotice, List.filterMap_append,
            List.filterMap_cons, List.filterMap_nil, Option.toList, List.cons_append]
      · simp only [StopRecord.causes, List.flatMap_append, List.flatMap_cons, List.flatMap_nil,
          List.append_nil]
        rw [h.causes_eq, StopRecord.causes, List.append_assoc]
      · -- What was first on the tray is the last that was looked at.
        have htaken := h.taken
        simp only [Tray.toList, List.cons_append] at htaken ⊢
        rw [List.append_assoc]
        exact htaken
      · -- It moves from the front of the tray to the end of what was taken,
        -- so the order is the same.
        rcases h.inOrder haside with ⟨hempty, horder⟩
        refine ⟨hempty, ?_⟩
        rw [← horder, List.append_assoc]
        rfl

/-- The stop gives way, and from there on the order is not kept. -/
theorem of_setAside (h : Joining name result tasks tray causes rec)
    (hrest : tray.setAside? = some rest) :
    Joining name result tasks rest causes (rec.append { aside := tray.ended.take 1 }) := by
  rw [StopRecord.append_aside]
  refine ⟨h.drained, h.notices, h.causes_eq, h.asked, h.ended, ?_, fun haside => ?_⟩
  · exact ((Tray.toList_setAside?_perm hrest).append_left rec.taken).trans h.taken
  · -- Something was on the tray, so something was put aside.
    rcases tray with ⟨ended, aside⟩
    cases ended with
    | nil => cases hrest
    | cons first ended =>
        rw [List.append_eq_nil_iff] at haside
        cases haside.2

theorem of_bringBack (h : Joining name result tasks tray causes rec)
    (hrest : tray.bringBack? = some rest) : Joining name result tasks rest causes rec := by
  refine ⟨h.drained, h.notices, h.causes_eq, h.asked, h.ended, ?_, fun haside => ?_⟩
  · exact ((Tray.toList_bringBack?_perm hrest).append_left rec.taken).trans h.taken
  · -- Nothing comes back if nothing was put aside.
    rw [Tray.bringBack?, (h.inOrder haside).1] at hrest
    cases hrest

theorem joined (h : Joining name result tasks tray causes rec) (htray : tray.isEmpty = true)
    (htasks : ∀ task ∈ tasks, task.state = .finished) :
    Joined (tasks.map Task.who) name result rec := by
  have hnothing := Tray.toList_of_isEmpty htray
  -- With nothing left on the tray, everything that has ended was looked at.
  have htaken := h.taken
  rw [hnothing, List.append_nil] at htaken
  refine ⟨h.drained, h.notices, begunOf_of_finished htasks ▸ h.asked,
    endedOf_of_finished htasks ▸ h.ended, htaken, fun haside => ?_⟩
  have horder := (h.inOrder haside).2
  rwa [(List.append_eq_nil_iff.mp hnothing).1, List.append_nil] at horder

end Joining

theorem blame_eq_nil_iff {name : String} {result : Return} :
    blame name result = [] ↔ result = .ok (.ok ()) := by
  constructor
  · intro h
    rcases result with p | (cause | _)
    · cases h
    · cases h
    · rfl
  · rintro rfl
    rfl

theorem Closing.causes_eq_nil_iff {closing : Closing} :
    closing.causes = [] ↔ ∃ name, closing = .returned name (.ok ()) := by
  constructor
  · intro h
    cases closing with
    | died cause => cases h
    | returned name result =>
        cases result with
        | error cause => cases h
        | ok _ => exact ⟨name, rfl⟩
  · rintro ⟨name, rfl⟩
    rfl

/-- A stop that has looked at everything has met a cause of failure unless all
    went well. -/
theorem Joined.causes_eq_nil_iff {deps : List ι} {name : String} {result : Return}
    {rec : StopRecord ι} (h : Joined deps name result rec) :
    rec.causes name result = [] ↔
      result = .ok (.ok ()) ∧ ∀ e ∈ rec.ended, ∃ name, e.2 = .returned name (.ok ()) := by
  rw [StopRecord.causes, List.append_eq_nil_iff, blame_eq_nil_iff, List.flatMap_eq_nil_iff]
  refine and_congr_right fun _ => ⟨fun hall e he => ?_, fun hall closing hmem => ?_⟩
  · have hmem : e.2 ∈ rec.taken := h.taken.mem_iff.mpr (List.mem_map_of_mem he)
    exact Closing.causes_eq_nil_iff.mp (hall e.2 hmem)
  · rcases List.mem_map.mp (h.taken.mem_iff.mp hmem) with ⟨e, he, rfl⟩
    exact Closing.causes_eq_nil_iff.mpr (hall e he)

end Steward
