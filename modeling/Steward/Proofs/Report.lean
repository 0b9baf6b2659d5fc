import Steward.Lifecycle.Next
import Steward.Proofs.Course
import Steward.Proofs.Ending
import Steward.Proofs.Enrolment
import Steward.Proofs.Record

/-!
# What a Stop Reports

That the outcome of a stop, the roster it leaves, and the events it has
published tell the same story, and that it is what has happened.

A stop keeps the causes of failure that it has met, and publishes an event
wherever one is due, in the same steps but one apart from the other.
That the two agree in the end is an invariant about all that has happened since
the stop was accepted. `StopPhase.Records` says for each phase what the record of
the stop is, down to the causes that the phase carries, and `Reported` what it
comes to at the end.

## Main definitions

* `StopPhase.Records`: The record of a stop in a phase.
* `Reported`: Outcome, roster and events agree with the record.

## Theorems

* `StopMove.joining`: A stop that goes on looking at its closings keeps their record.
* `StopMove.records`: A stop that goes on keeps the record.
* `StopEnd.reported`: A stop that ends has reported what the record says.
* `records_of_run`: What is written down of a stop is what its phase says.
-/

namespace Steward

variable {ι : Type}

/-- The record of a stop by its phase. `r` is the roster that the stop has seen. -/
def StopPhase.Records (r : Roster ι) (rec : StopRecord ι) : StopPhase ι → Prop
  | .arriving | .queued | .entering | .admitted _ _ => rec = {}
  | .announced _ _ | .draining _ _ _ => rec = { notices := [{ kind := .serviceStopping }] }
  | .drained name result _ => ∃ answer, result = guarded name answer ∧
    rec = { notices := [{ kind := .serviceStopping }], drained := [(name, answer)] }
  | .spawning _ causes => ∃ name answer, causes = blame name answer ∧
    rec = {
      notices := [{ kind := .serviceStopping },
        System.closeNotice .serverStopped name (guarded name answer)]
      drained := [(name, answer)] }
  | .closing tasks tray causes => ∃ name answer, Joining name answer tasks tray causes rec
  | .succeeded | .marked => ∃ name answer, Joined r.dependencies name answer rec ∧
    rec.causes name answer = []

/-- The roster in a phase of a stop that has seen the roster `r`. -/
def StopPhase.rosterSince (r : Roster ι) : StopPhase ι → Roster ι
  | .marked => r.markStopped
  | _ => r

/-- Outcome, roster and events agree with the record of a stop. The roster that the
    stop has seen is `r`, and the one that it leaves `r'`. -/
structure Reported (r : Roster ι) (name : String) (result : Return) (rec : StopRecord ι)
    (r' : Roster ι) (o : Outcome) : Prop where
  /-- The server was stopped once. -/
  drained : rec.drained = [(name, result)]
  /-- Every dependency was asked to close unless its task died. -/
  asked : (rec.asked ++ rec.dead).Perm r.dependencies
  /-- Every dependency was closed, each as often as it is there. -/
  ended : (rec.ended.map Prod.fst).Perm r.dependencies
  /-- The stop has looked at every closing. -/
  taken : rec.taken.Perm (rec.ended.map Prod.snd)
  /-- The order is the same if the stop has not given way. -/
  inOrder : rec.aside = [] → rec.taken = rec.ended.map Prod.snd
  /-- It has ended well if and only if nothing has failed. -/
  done_iff : o = .done ↔
    result = .ok (.ok ()) ∧ ∀ e ∈ rec.ended, ∃ name, e.2 = .returned name (.ok ())
  well : rec.causes name result = [] → o = .done ∧ r' = { r with stopped := true } ∧
    rec.notices = rec.told name result ++ [{ kind := .serviceStopped }]
  badly : rec.causes name result ≠ [] → r' = r ∧
    (∃ failure, o = .failed failure ∧ failure.message = stopFailure.message ∧
      failure.findingList = [] ∧ failure.causes = rec.causes name result) ∧
    rec.notices = rec.told name result ++
      [{ kind := .stopFailed
         reason := some (toString (rec.causes name result).length ++ " failure(s)") }]

/-- All dependencies were asked if and only if no task has died, or there are
    none. -/
theorem Reported.asked_iff {r r' : Roster ι} {name : String} {result : Return}
    {rec : StopRecord ι} {o : Outcome} (h : Reported r name result rec r' o) :
    rec.asked.Perm r.dependencies ↔ r.dependencies = [] ∨ rec.dead = [] := by
  constructor
  · intro hasked
    -- There is no room for a task that died beside all that were asked.
    have hlength := h.asked.length_eq
    rw [List.length_append, hasked.length_eq] at hlength
    exact Or.inr (List.length_eq_zero_iff.mp (by omega))
  · intro hnone
    have hdead : rec.dead = [] := by
      rcases hnone with hdeps | hdead
      · have hasked := h.asked
        rw [hdeps, List.perm_nil, List.append_eq_nil_iff] at hasked
        exact hasked.2
      · exact hdead
    have hasked := h.asked
    rwa [hdead, List.append_nil] at hasked

namespace Joined

variable {r : Roster ι} {name : String} {result : Return} {rec : StopRecord ι}

theorem reported_done (h : Joined r.dependencies name result rec)
    (hcauses : rec.causes name result = []) :
    Reported r name result (rec.append { notices := [{ kind := .serviceStopped }] })
      r.markStopped .done := by
  rw [StopRecord.append_notices]
  refine ⟨h.drained, h.asked, h.ended, h.taken, h.inOrder, ?_, fun _ => ⟨rfl, rfl, ?_⟩,
    fun hne => ?_⟩
  · exact ⟨fun _ => h.causes_eq_nil_iff.mp hcauses, fun _ => rfl⟩
  · exact congrArg (· ++ _) h.notices
  · exact absurd hcauses hne

theorem reported_failed (h : Joined r.dependencies name result rec)
    (hcauses : rec.causes name result ≠ []) :
    Reported r name result
      (rec.append { notices :=
        [{ kind := .stopFailed
           reason := some (toString (rec.causes name result).length ++ " failure(s)") }] })
      r (.failed (stopFailure.addCauses (rec.causes name result))) := by
  rw [StopRecord.append_notices]
  refine ⟨h.drained, h.asked, h.ended, h.taken, h.inOrder, ?_, fun hnone => ?_,
    fun _ => ⟨rfl, ⟨_, rfl, rfl, rfl, rfl⟩, ?_⟩⟩
  · exact ⟨nofun, fun hall => absurd (h.causes_eq_nil_iff.mpr hall) hcauses⟩
  · exact absurd hnone hcauses
  · exact congrArg (· ++ _) h.notices

end Joined

namespace System

variable {s t : System ι} {call : Nat} {effects : List (Effect ι)} {p q : StopPhase ι}
  {a : Action ι} {o : Outcome} {rec : StopRecord ι}

/-- A stop that has spawned its tasks has looked at no closing so far. -/
theorem joining_newTasks (s : System ι) (deps : List ι) (name : String) (answer : Return) :
    Joining name answer (s.newTasks deps) {} (blame name answer) {
      notices := [{ kind := .serviceStopping },
        closeNotice .serverStopped name (guarded name answer)]
      drained := [(name, answer)] } where
  drained := rfl
  notices := rfl
  causes_eq := (List.append_nil _).symm
  asked := by
    rw [begunOf_newTasks]
    exact List.Perm.refl []
  ended := by
    rw [endedOf_newTasks]
    exact List.Perm.refl []
  taken := List.Perm.refl []
  inOrder _ := ⟨rfl, rfl⟩

theorem seen_spawnCloses (s : System ι) (call : Nat) (tasks : List (Task ι)) :
    s.seen call (.spawnCloses call) (spawnEffects call tasks) = {} := by
  have hnone : publishedIn (spawnEffects call tasks) = [] :=
    filterMap_spawnEffects (fun _ => rfl) _
  have hasked : askedIn (spawnEffects call tasks) = [] :=
    filterMap_spawnEffects (fun _ => rfl) _
  rw [seen_eq s rfl, hnone, hasked]
  rfl

/-- What a stop shows of a closing that it looks at is the notice of it, if there is
    one. -/
theorem seen_joinClose {tasks : List (Task ι)} {tray rest : Tray Closing} {causes : List Cause}
    {closing : Closing} (hphase : s.stopPhase? call = some (.closing tasks tray causes))
    (htake : tray.take? = some (closing, rest)) :
    s.seen call (.joinClose call) (closing.shown s.settings.name) =
      { taken := [closing], notices := closing.notice?.toList } := by
  have hshown : publishedIn (closing.shown s.settings.name : List (Effect ι)) =
      closing.notice?.toList := by
    cases closing <;> rfl
  have hasked : askedIn (closing.shown s.settings.name : List (Effect ι)) = [] := by
    cases closing <;> rfl
  rw [seen_eq s rfl, seenWork_joinClose hphase htake, hshown, hasked]

/-- A stop that goes on looking at its closings keeps their record. -/
theorem StopMove.joining {tasks tasks' : List (Task ι)} {tray tray' : Tray Closing}
    {causes causes' : List Cause} {name : String} {result : Return}
    (h : StopMove s call (.closing tasks tray causes) a effects (.closing tasks' tray' causes'))
    (hphase : s.stopPhase? call = some (.closing tasks tray causes))
    (hm : Joining name result tasks tray causes rec) :
    Joining name result tasks' tray' causes' (rec.append (s.seen call a effects)) := by
  cases h with
  | @close _ _ _ place number who name htask =>
      -- What the tasks show of themselves.
      rcases begunOf_set_running name htask with ⟨hbegun, hended⟩
      rw [seen_eq s rfl]
      exact hm.of_asked hbegun hended
  | @died _ _ _ place number who panic htask =>
      -- A task that dies begins and ends at once.
      rw [seen_eq s rfl, seenWork_runClose_error hphase htask]
      exact hm.of_ended (begunOf_set htask TaskState.noConfusion)
        (endedOf_set_finished htask TaskState.noConfusion)
  | @closed _ _ _ place number who name result htask =>
      have hbegun : (begunOf (tasks.set place ⟨number, who, .finished⟩)).Perm (begunOf tasks) := by
        rw [begunOf_set_finished htask]
      rw [seen_eq s rfl, seenWork_endClose hphase htask]
      exact hm.of_ended hbegun (endedOf_set_finished htask TaskState.noConfusion)
  | take htake =>
      -- What the stop does with those that have ended.
      rw [seen_joinClose hphase htake]
      exact hm.of_take htake
  | setAside hrest =>
      rw [seen_eq s rfl, seenWork_setAside hphase]
      exact hm.of_setAside hrest
  | bringBack hrest =>
      rw [seen_eq s rfl]
      change Joining _ _ _ _ _ (rec.append {})
      rw [StopRecord.append_empty]
      exact hm.of_bringBack hrest

/-- A stop that goes on keeps the record. -/
theorem StopMove.records {r : Roster ι} (h : StopMove s call p a effects q)
    (hphase : s.stopPhase? call = some p) (hp : p.Sound s.roster)
    (hserver : s.roster.initialized = true → s.roster.server.isSome = true)
    (hr : s.roster = p.rosterSince r) (hm : p.Records r rec) :
    q.Records r (rec.append (s.seen call a effects)) ∧
      p.rosterAfter s.roster = q.rosterSince r := by
  have hmove := h
  have hseen := seen_eq s h.caller effects
  cases h with
  -- Up to the spawning of the tasks the record is known entry by entry.
  | accept _ | announce | ask =>
      refine ⟨?_, hr⟩
      rw [hm, hseen]
      rfl
  | pass =>
      -- A service that was started has a server.
      have hsome := hserver hp.1.1
      rw [hp.2.1] at hsome
      cases hsome
  | @drained server name deps answer =>
      refine ⟨⟨answer, rfl, ?_⟩, hr⟩
      rw [hm, hseen, seenWork_endDraining hphase]
      rfl
  | report =>
      rcases hm with ⟨answer, rfl, rfl⟩
      refine ⟨⟨_, answer, causeOf_guarded _ answer, ?_⟩, hr⟩
      rw [hseen]
      rfl
  | @spawn deps causes =>
      rcases hm with ⟨name, answer, rfl, rfl⟩
      rw [seen_spawnCloses, StopRecord.append_empty]
      exact ⟨⟨name, answer, joining_newTasks s deps name answer⟩, hr⟩
  | close _ | died _ | closed _ | take _ | setAside _ | bringBack _ =>
      rcases hm with ⟨server, answer, hm⟩
      exact ⟨⟨server, answer, hmove.joining hphase hm⟩, hr⟩
  -- From here on nothing is written down any more.
  | succeed htray htasks =>
      rcases hm with ⟨server, answer, hm⟩
      -- The tasks are those of the dependencies that the stop has seen.
      have hdeps : r.dependencies = _ := hr ▸ hp.2
      have hnothing : s.seen call (.concludeStop call) [] = {} := by
        rw [hseen]
        rfl
      rw [hnothing, StopRecord.append_empty]
      refine ⟨⟨server, answer, ?_, hm.causes_eq.symm⟩, hr⟩
      rw [hdeps]
      exact hm.joined htray htasks
  | mark =>
      have hnothing : s.seen call (.markStopped call) [] = {} := by
        rw [hseen]
        rfl
      rw [hnothing, StopRecord.append_empty]
      exact ⟨hm, by rw [hr]; rfl⟩

theorem askedIn_append (first second : List (Effect ι)) :
    askedIn (first ++ second) = askedIn first ++ askedIn second :=
  List.filterMap_append

theorem askedIn_finishStop (s : System ι) (call : Nat) (o : Outcome) :
    askedIn (s.finishStop call o).2 = [] :=
  filterMap_finishStop s call o fun _ => rfl

theorem publishedIn_finishStop (s : System ι) (call : Nat) (o : Outcome) :
    publishedIn (s.finishStop call o).2 = [] :=
  filterMap_finishStop s call o fun _ => rfl

/-- A stop that ends has reported what the record says. -/
theorem StopEnd.reported {r : Roster ι} (h : StopEnd s call p a effects o)
    (hopen : r.IsOpen) (hp : p.Sound s.roster) (hr : s.roster = p.rosterSince r)
    (hname : ∀ panic, a ≠ .nameForStop call (.error panic)) (hm : p.Records r rec) :
    ∃ name result, Reported r name result
      (rec.append (s.seen call a (effects ++ (s.finishStop call o).2))) s.roster o := by
  have hseen := seen_eq s h.caller (effects ++ (s.finishStop call o).2)
  rw [publishedIn_append, publishedIn_finishStop, List.append_nil, askedIn_append,
    askedIn_finishStop, List.append_nil] at hseen
  cases h with
  | refused hrefused =>
      -- What is open is not refused.
      have hsame : s.roster = r := hr
      rw [hsame, Roster.admitStop, hopen.1, hopen.2] at hrefused
      cases hrefused
  | nameless => exact absurd rfl (hname _)
  | @failed tasks tray causes htray htasks hcauses =>
      -- Nothing is left on the tray and every task has ended, so the record is complete.
      rcases hm with ⟨name, answer, hm⟩
      have hsame : s.roster = r := hr
      have hdeps : tasks.map Task.who = r.dependencies := by
        rw [← hsame, hp.2]
      have hjoined := hm.joined htray htasks
      rw [hdeps] at hjoined
      have hmet := hm.causes_eq
      subst hmet
      rw [hseen, hsame]
      exact ⟨name, answer, hjoined.reported_failed hcauses⟩
  | done =>
      rcases hm with ⟨name, answer, hjoined, hcauses⟩
      have hmarked : s.roster = r.markStopped := hr
      rw [hseen, hmarked]
      exact ⟨name, answer, hjoined.reported_done hcauses⟩

/-- What is written down of a stop from its acceptance on is what its phase
    says. -/
theorem records_of_run {settings : Settings} {u : System ι} {before : List (Action ι)}
    {shown : List (Effect ι)} (hs : Reachable settings s)
    (hphase : s.stopPhase? call = some .entering) (hopen : s.roster.IsOpen)
    (h : s.run before = some (u, shown)) :
    call < u.calls.length ∧ ∀ p, u.stopPhase? call = some p → p.isInside = true ∧
      u.roster = p.rosterSince s.roster ∧ p.Records s.roster (s.record call before) := by
  refine run_induction (fun before u => call < u.calls.length ∧ ∀ p, u.stopPhase? call = some p →
    p.isInside = true ∧ u.roster = p.rosterSince s.roster ∧
      p.Records s.roster (s.record call before)) ?_ ?_ h
  · refine ⟨(List.getElem?_eq_some_iff.mp (stopPhase?_eq_some.mp hphase)).1, fun p hp => ?_⟩
    rw [hphase, Option.some.injEq] at hp
    rw [← hp]
    exact ⟨rfl, rfl, rfl⟩
  · intro before u shown a v now _ hrun ⟨hlt, hu⟩ hact
    have hreach : Reachable settings u := hs.run hrun
    have hstep := step_of_act hact
    refine ⟨Nat.lt_of_lt_of_le hlt hstep.grows, fun q hq => ?_⟩
    rw [record_append_singleton call hrun hact]
    cases hp : u.stopPhase? call with
    | none =>
        -- A stop that has ended does not come back.
        rw [hstep.stopPhase?_eq_none hreach.gated hlt hp] at hq
        cases hq
    | some p =>
        rcases hu p hp with ⟨hin, hroster, hrecords⟩
        rcases hstep.view hreach.gated hp hin with
          ⟨hcaller, hsame, hkept, -⟩ | ⟨hmove, hmoved, hafter⟩ | ⟨hend, hgone, -, -⟩
        · rw [hsame, Option.some.injEq] at hq
          rw [← hq, seen_eq_empty hcaller, StopRecord.append_empty]
          -- While the stop is under way nobody else changes the roster.
          have hinit : u.roster.initialized = true := by
            rw [hroster]
            cases p <;> exact hopen.1
          exact ⟨hin, (hkept hinit).trans hroster, hrecords⟩
        · rw [hmoved, Option.some.injEq] at hq
          rw [← hq, hafter]
          rcases hmove.records hp (hreach.sound call p hp) hreach.server_of_initialized hroster
            hrecords with ⟨hrecords', hroster'⟩
          exact ⟨hmove.isInside.2, hroster', hrecords'⟩
        · rw [stopPhase?_eq_bind, hgone] at hq
          cases hq

/-- A stop that is accepted reports what has happened when it ends, and it can
    always be brought to its end by its own steps, whatever its participants do.
    The one thing left out is a server that panics when it is asked for its
    name. -/
theorem stop_reports {settings : Settings} (hs : Reachable settings s)
    (hphase : s.stopPhase? call = some .entering) (hopen : s.roster.IsOpen) :
    (∀ before u shown p a t last o, s.run before = some (u, shown) → u.stopPhase? call = some p →
      u.act a = some (t, last) → t.calls[call]? = some (.ended o) →
      (∀ panic, a ≠ .nameForStop call (.error panic)) →
      ∃ name result, Reported s.roster name result (s.record call (before ++ [a])) t.roster o) ∧
    ∀ before u shown p, s.run before = some (u, shown) → u.stopPhase? call = some p →
      ∀ b : Behaviour, ∃ more v later o, (∀ a ∈ more, a.call? = some call ∧ b.Allows a) ∧
        u.run more = some (v, later) ∧ v.calls[call]? = some (.ended o) := by
  constructor
  · intro before u shown p a t last o hrun hp hact hended hname
    have hreach : Reachable settings u := hs.run hrun
    -- Up to the last step the record goes along with the phase, and that step ends it.
    rcases (records_of_run hs hphase hopen hrun).2 p hp with ⟨hin, hroster, hrecords⟩
    rcases (step_of_act hact).stopEnd hreach.gated hp hin hended with ⟨now, hend, hkept, heffects⟩
    rw [record_append_singleton call hrun hact, heffects, hkept]
    exact hend.reported hopen (hreach.sound call p hp) hroster hname hrecords
  · intro before u shown p hrun hp b
    -- The stop is inside, and from there its own steps bring it to an end.
    rcases (records_of_run hs hphase hopen hrun).2 p hp with ⟨hin, -, -⟩
    exact exists_run_ended (hs.run hrun) hp hin b

/-- A server that panics and a dependency that refuses are both reported, the
    server first. -/
theorem stop_reports_two_failures :
    let before : List (Action Nat) := [.serve (fun _ _ => .ok "api") (some 0),
      .attach (fun _ _ => .ok "db") (some 1), .begin .start, .enterStart 2 (.ok ()),
      .begin .stop, .approach 3]
    let actions : List (Action Nat) := [.enterStop 3, .announceStop 3, .nameForStop 3 (.ok "api"),
      .endDraining 3 (.error (.text "boom")), .reportServer 3, .spawnCloses 3,
      .runClose 3 0 (.ok "db"), .endClose 3 0 (.ok (.error (.plain "busy"))), .joinClose 3]
    let causes : List Cause := [.failure (panicFailure "api" (.text "boom")), .plain "busy"]
    ∃ s u t shown now last, (System.initial Settings.standard).run before = some (s, shown) ∧
      s.stopPhase? 3 = some .entering ∧ s.roster.IsOpen ∧ s.run actions = some (u, now) ∧
      u.act (.concludeStop 3) = some (t, last) ∧
      ∃ name result, Reported s.roster name result (s.record 3 (actions ++ [.concludeStop 3]))
        t.roster (.failed (stopFailure.addCauses causes)) := by
  intro before actions causes
  have hbefore : (System.initial Settings.standard).run before = some (_, _) := rfl
  have hreports := stop_reports (Reachable.initial.run hbefore)
    (show System.stopPhase? _ 3 = some .entering from rfl) ⟨rfl, rfl⟩
  exact ⟨_, _, _, _, _, _, hbefore, rfl, ⟨rfl, rfl⟩, rfl, rfl,
    hreports.1 actions _ _ _ _ _ _ _ rfl rfl rfl rfl nofun⟩

/-- A stop that finds two dependencies more than it looks at in one turn. None of
    them can tell its name, so their tasks die one after the other. -/
def crowdedStop : List (Action Nat) :=
  [.begin .start, .begin .stop, .serve (fun _ _ => .ok "api") (some 0)] ++
  (List.range (turnAllowance + 2)).map (fun i => .attach (fun _ _ => .ok "db") (some (i + 1))) ++
  [.enterStart 0 (.ok ()), .approach 1, .enterStop 1, .announceStop 1, .nameForStop 1 (.ok "api"),
    .endDraining 1 (.ok (.ok ())), .reportServer 1, .spawnCloses 1] ++
  (List.range (turnAllowance + 2)).map (fun i => .runClose 1 i (.error .mute)) ++
  List.replicate turnAllowance (.joinClose 1) ++
  [.setAside 1, .bringBack 1, .joinClose 1, .joinClose 1, .concludeStop 1]

/-- The number of a task that died. -/
def deadTask : Cause → Option Nat
  | .died number _ => some number
  | _ => none

/-- The tasks that are to blame for the failure of a call. -/
def deadTasks (s : System ι) (call : Nat) : Option (List (Option Nat)) :=
  match s.calls[call]? with
  | some (.ended (.failed failure)) => some (failure.causes.map deadTask)
  | _ => none

/-- A stop that gives way does not report its failures in the order in which they
    have come about. -/
theorem stop_out_of_order : ∃ t effects failure,
    (System.initial Settings.standard).run crowdedStop = some (t, effects) ∧
    t.calls[1]? = some (.ended (.failed failure)) ∧
    let seen := (System.initial Settings.standard).record 1 crowdedStop
    failure.causes ≠
      (seen.drained.flatMap fun d => blame d.1 d.2) ++ seen.ended.flatMap fun e => e.2.causes := by
  -- Reported are the first 128, then the last one before the one that was set aside.
  have hreported : ((System.initial Settings.standard).run crowdedStop).bind
      (fun result => deadTasks result.1 1) =
      some ((List.range 128 ++ [129, 128]).map some) := by
    decide +kernel
  have hended : (let seen := (System.initial Settings.standard).record 1 crowdedStop
      (seen.drained.flatMap fun d => blame d.1 d.2) ++
        seen.ended.flatMap fun e => e.2.causes).map deadTask = (List.range 130).map some := by
    decide +kernel
  rcases Option.bind_eq_some_iff.mp hreported with ⟨⟨t, effects⟩, hrun, hdead⟩
  rw [deadTasks] at hdead
  split at hdead
  · rename_i failure hcall
    refine ⟨t, effects, failure, hrun, hcall, fun heq => ?_⟩
    rw [Option.some.injEq, heq, hended] at hdead
    exact absurd hdead (by decide)
  · cases hdead

end System

end Steward
