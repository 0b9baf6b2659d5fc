import Steward.Proofs.Relay
import Steward.Proofs.Underway

/-!
# The Log Is Faithful

That the lifecycle events of a service are a log of it.

A service tells of itself by events, and of its roster by nothing else. That the
events are enough to tell the roster by, and that they come in the order of a
chronicle, is a matter of every step that changes something or publishes something,
and of every way in which calls can overlap.

A log lags behind the service while a call is in the middle of its turn. `Balances`
says that no step loses count: what it publishes and what is owed after it is what was
owed before it and something new. So the log along with what is owed to it grows at
its end, and there is one thing to say of it, in whatever phases the calls are
(`Logged`). It begins as a list of registrations that tell the roster. When a start is
accepted these are over, and from there on the log is a shuffle of what the start has
told and what the stops have told. Between turns nothing is owed, and it is the log
itself that tells the roster.

Participants here tell the same name whenever they are asked, and a call is left only
where it waits. No call is dropped on its way. Those who listen cannot disturb any of
this, whatever they do with the events.

## Main definitions

* `System.Balances`: What a step adds to the log.
* `Service.callsIn`: What the calls do in a run of a service.

## Theorems

* `Logged.step_elsewhere`, `Logged.step_stopMoved`, `Logged.step_stopEnded`: A step
  keeps the log and the service together.
* `Logged.exists_chronicle`: The log is the beginning of a chronicle.
* `Logged.ofLog_eq`: The log tells the roster.
* `logged_of_run`: The log of every run is about the service that it has led to.
* `run_system`: A run of a service is one of its calls, and those who listen add
  nothing to the log.
* `events_tell_the_service`: The lifecycle events of a service are a log of it.
-/

namespace Steward

variable {ι : Type} {nameOf : ι → String}

namespace System

variable {s t : System ι} {call : Nat} {a : Action ι} {effects : List (Effect ι)}

/-- A step adds these notices to the log, with what is owed to it before and after. -/
def Balances (nameOf : ι → String) (s t : System ι) (effects : List (Effect ι))
    (news : List Notice) : Prop :=
  lifecycleIn (publishedIn effects) ++ t.owed nameOf = s.owed nameOf ++ news

theorem balances_quiet (htold : lifecycleIn (publishedIn effects) = [])
    (howed : t.owed nameOf = s.owed nameOf) : Balances nameOf s t effects [] := by
  rw [Balances, htold, howed, List.append_nil, List.nil_append]

/-- In a turn it is the call that takes it which owes and pays. -/
theorem balances_turn {c c' : Call ι} {news : List Notice} (hcalm : s.interrupted a effects = [])
    (hturn : a.isBeside = false) (hown : a.call? = some call) (hc : s.calls[call]? = some c)
    (hcalls : t.calls = s.calls.set call c')
    (hpaid : lifecycleIn (publishedIn effects) ++ c'.owes nameOf = c.owes nameOf ++ news) :
    Balances nameOf s t effects news := by
  rcases owed_eq hcalm hturn hown hc with ⟨hbefore, hafter⟩
  rw [Balances, hbefore, hafter t hcalls, hpaid]

/-- The first in line that is let in when a stop ends owes nothing. -/
theorem owed_finishStop (hg : s.Gated) {p : StopPhase ι} (hp : s.stopPhase? call = some p)
    (hin : p.isInside = true) (o : Outcome) :
    (s.finishStop call o).1.owed nameOf = (s.setCall call (.ended o)).owed nameOf := by
  rcases calls_finishStop hg hp hin o with hcalls | ⟨next, hqueued, hcalls⟩
  · rw [owed, hcalls, owed]
  · exact owed_set hqueued hcalls rfl

/-- All that a stop publishes is about the life of the service. -/
theorem StopMove.lifecycle {p q : StopPhase ι} (h : StopMove s call p a effects q) :
    lifecycleIn (publishedIn effects) = publishedIn effects := by
  cases h with
  | @report name result deps => cases result <;> rfl
  | spawn => rw [publishedIn, filterMap_spawnEffects (fun _ => rfl)]; rfl
  | @take _ _ _ _ closing _ =>
      rcases closing with ⟨name, cause | _⟩ | cause <;> rfl
  | _ => rfl

/-- What a task of a stop does is told only when the stop looks at it. -/
theorem StopMove.told_beside {p q : StopPhase ι} (h : StopMove s call p a effects q)
    (hbeside : a.isBeside = true) : publishedIn effects = [] := by
  cases h with
  | close _ | died _ | closed _ => rfl
  | _ => cases hbeside

/-- A stop that goes on tells at once what there is to tell, and owes nothing for it. -/
theorem StopMove.balances {p q : StopPhase ι} (h : StopMove s call p a effects q)
    (hcalm : s.interrupted a effects = []) (hp : s.stopPhase? call = some p) (hmark : q ≠ .marked) :
    Balances nameOf s ({ s with
      roster := p.rosterAfter s.roster
      taskCount := s.taskCount + p.toSpawn.length }.setStop call q) effects
      (publishedIn effects) := by
  have hc := stopPhase?_eq_some.mp hp
  -- Only a stop that is marked owes anything: the event that it is done.
  have hbefore : (Call.stopping p).owes nameOf = [] := by cases h <;> rfl
  have hafter : (Call.stopping q).owes nameOf = [] := by
    cases q with
    | marked => exact absurd rfl hmark
    | _ => rfl
  by_cases hbeside : a.isBeside = true
  · -- The tasks beside the stop publish nothing.
    rw [h.told_beside hbeside]
    refine balances_quiet ?_ (owed_set hc rfl (hafter.trans hbefore.symm))
    rw [h.told_beside hbeside]
    rfl
  · refine balances_turn hcalm (Bool.eq_false_iff.mpr hbeside) h.caller hc rfl ?_
    rw [hbefore, hafter, h.lifecycle, List.append_nil, List.nil_append]

/-- A stop that ends owes nothing any more, so what it tells and did not owe is new. -/
theorem StopEnd.balances {p : StopPhase ι} {o : Outcome} {shown : List (Effect ι)}
    {news : List Notice}
    (h : StopEnd s call p a shown o) (hg : s.Gated)
    (hcalm : s.interrupted a (shown ++ (s.finishStop call o).2) = [])
    (hp : s.stopPhase? call = some p)
    (hpaid : lifecycleIn (publishedIn shown) = (Call.stopping p).owes nameOf ++ news) :
    Balances nameOf s (s.finishStop call o).1 (shown ++ (s.finishStop call o).2) news := by
  have hturn : a.isBeside = false := by cases h <;> rfl
  rcases owed_eq hcalm hturn h.caller (stopPhase?_eq_some.mp hp) with ⟨hbefore, hafter⟩
  rw [Balances, publishedIn_append, publishedIn_finishStop, List.append_nil,
    owed_finishStop hg hp h.isInside, hbefore, hafter (s.setCall call (.ended o)) rfl, hpaid]
  exact List.append_nil _

theorem publishedIn_woken (calls : List Nat) :
    publishedIn (calls.map (.woken : Nat → Effect ι)) = [] := by
  rw [publishedIn, List.filterMap_map, List.filterMap_eq_nil_iff]
  exact fun _ _ => rfl

namespace Logged

variable {log news : List Notice} {c : Call ι}

theorem of_quiet (hl : Logged nameOf s log) (hapart : Apart s a t effects)
    (hroster : t.roster = s.roster) (hkeeps : s.KeepsStarts t) : Logged nameOf t log := by
  cases hl with
  | unstarted hinit hregistrations hnone =>
      refine .unstarted (by rw [hroster]; exact hinit) (by rw [hroster]; exact hregistrations) ?_
      intro i p hp
      refine Bool.eq_false_iff.mpr fun haccepted => ?_
      rw [hnone i p (hkeeps i p hp haccepted)] at haccepted
      cases haccepted
  | started hregistrations hunderway htold =>
      refine .started (by rw [hroster]; exact hregistrations) ?_ htold
      exact hunderway.of_apart hapart hroster hunderway.trace (hunderway.starts_of_keeps hkeeps)

/-- A start that was accepted goes on or ends. -/
theorem of_start (hl : Logged nameOf s log) (hapart : Apart s a t effects)
    (hroster : t.roster = s.roster) {p : StartPhase ι} (hp : s.startPhase? call = some p)
    (haccepted : p.isAccepted = true) (hcalls : t.calls = s.calls.set call c)
    (hnews : ∀ server start, StartTrace server start → p.Recounts nameOf server start →
      StartTrace server (start ++ news) ∧
        ∀ q, c.startPhase? = some q → q.Recounts nameOf server (start ++ news)) :
    Logged nameOf t (log ++ news) := by
  cases hl with
  | unstarted _ _ hnone =>
      -- No start was accepted before the log has one.
      rw [hnone call p hp] at haccepted
      cases haccepted
  | @started registrations start stops rest told server hregistrations hunderway htold =>
      rcases hunderway.starts with ⟨starter, hstarts⟩
      rcases hstarts call p hp haccepted with ⟨rfl, hrecounts⟩
      rcases hnews _ start hunderway.trace hrecounts with ⟨htrace, hnext⟩
      -- Behind the registrations the events of the start and of the stops are told
      -- apart, and the news is the start's.
      rw [List.append_assoc, List.cons_append]
      refine .started (by rw [hroster]; exact hregistrations) ?_ (htold.append_left news)
      refine hunderway.of_apart hapart hroster htrace ⟨call, fun i q hq hq' => ?_⟩
      rw [startPhase?_set (startPhase?_eq_some.mp hp) hcalls] at hq
      by_cases hi : i = call
      · rw [if_pos hi] at hq
        exact ⟨hi, hnext q hq⟩
      · -- No other start was accepted.
        rw [if_neg hi] at hq
        exact absurd (hstarts i q hq hq').1 hi

/-- A start that was accepted goes on without a word. -/
theorem of_start_silent (hl : Logged nameOf s log) (hapart : Apart s a t effects)
    (hroster : t.roster = s.roster) {p q : StartPhase ι} (hp : s.startPhase? call = some p)
    (haccepted : p.isAccepted = true) (hcalls : t.calls = s.calls.set call (.starting q))
    (hnext : ∀ server start, p.Recounts nameOf server start → q.Recounts nameOf server start) :
    Logged nameOf t log := by
  rw [← List.append_nil log]
  refine hl.of_start hapart hroster hp haccepted hcalls fun server start htrace hrecounts => ?_
  rw [List.append_nil]
  refine ⟨htrace, fun q' hq => ?_⟩
  cases hq
  exact hnext server start hrecounts

/-- A participant is registered. -/
theorem of_registered (hl : Logged nameOf s log) (hinit : s.roster.initialized = false)
    (hinit' : t.roster.initialized = false) (hcalls : t.calls = s.calls ++ [c])
    (hc : c.startPhase? = none)
    (hnews : Registrations (s.roster.server.map nameOf) (s.roster.dependencies.map nameOf) log →
      Registrations (t.roster.server.map nameOf) (t.roster.dependencies.map nameOf) (log ++ news)) :
    Logged nameOf t (log ++ news) := by
  cases hl with
  | unstarted _ hregistrations hnone =>
      refine .unstarted hinit' (hnews hregistrations) fun i p hp => ?_
      rw [startPhase?_append hcalls] at hp
      split at hp
      · rw [hc] at hp
        cases hp
      · exact hnone i p hp
  | started _ hunderway _ =>
      rw [hunderway.initialized] at hinit
      cases hinit

/-- A participant is registered or is not. -/
theorem step_register (hl : Logged nameOf s log) {kind : EventKind}
    {outcome : Registration × Roster ι}
    (hapart : Apart s a (s.register kind outcome).1 (s.register kind outcome).2)
    (hkind : kind.isLifecycle = true)
    (hrefused : (∀ name, outcome.1 ≠ .accepted name) → outcome.2 = s.roster)
    (haccepted : ∀ name, outcome.1 = .accepted name →
      s.roster.initialized = false ∧ outcome.2.initialized = false ∧
      (Registrations (s.roster.server.map nameOf) (s.roster.dependencies.map nameOf) log →
        Registrations (outcome.2.server.map nameOf) (outcome.2.dependencies.map nameOf)
          (log ++ [registeredNotice kind name]))) :
    ∃ news, Balances nameOf s (s.register kind outcome).1 (s.register kind outcome).2 news ∧
      Logged nameOf (s.register kind outcome).1 (log ++ news) := by
  rcases outcome with ⟨outcome, roster⟩
  cases outcome with
  | accepted name =>
      rcases haccepted name rfl with ⟨hinit, hinit', hnews⟩
      refine ⟨[registeredNotice kind name], ?_, hl.of_registered hinit hinit' rfl rfl hnews⟩
      -- The announcement is owed from here on.
      have howed : lifecycleIn [registeredNotice kind name] = [registeredNotice kind name] :=
        List.filter_cons_of_pos hkind
      rw [Balances, owed_append rfl]
      exact congrArg (s.owed nameOf ++ ·) howed
  | refused _ | panicked _ =>
      -- The name is asked for before the roster is changed, so after a panic too it is what it was.
      have hroster : roster = s.roster := hrefused nofun
      refine ⟨[], balances_quiet rfl ((owed_append rfl).trans (List.append_nil _)), ?_⟩
      rw [List.append_nil]
      exact hl.of_quiet hapart hroster (keepsStarts_of_append rfl nofun)

/-- A server is registered, or it is not. -/
theorem step_serve (hl : Logged nameOf s log) {ask : Answers ι} {offered : Option ι}
    (hapart : Apart s (.serve ask offered)
      (s.register .serverRegistered (s.roster.serve ask offered)).1
      (s.register .serverRegistered (s.roster.serve ask offered)).2)
    (hnames : ∀ e ∈ s.namesGiven (.serve ask offered) effects, e.2 = .ok (nameOf e.1)) :
    ∃ news, Balances nameOf s (s.register .serverRegistered (s.roster.serve ask offered)).1
        (s.register .serverRegistered (s.roster.serve ask offered)).2 news ∧
      Logged nameOf (s.register .serverRegistered (s.roster.serve ask offered)).1 (log ++ news) := by
  refine hl.step_register hapart rfl Roster.serve_of_not_accepted fun name haccepted => ?_
  rcases Roster.of_serve_accepted haccepted with ⟨who, -, rfl, -, -, hinit, hserver, hafter⟩
  rcases Roster.answer_of_serve_accepted haccepted with ⟨_, heq, hanswer⟩
  cases heq
  have htold := hanswer.symm.trans (answer_of_offered (.inl rfl) hnames)
  rw [hafter, hserver, Except.ok.inj htold]
  exact ⟨hinit, hinit, .served _⟩

/-- A dependency is attached, or it is not. -/
theorem step_attach (hl : Logged nameOf s log) {ask : Answers ι} {offered : Option ι}
    (hapart : Apart s (.attach ask offered)
      (s.register .dependencyAttached (s.roster.attach ask offered)).1
      (s.register .dependencyAttached (s.roster.attach ask offered)).2)
    (hnames : ∀ e ∈ s.namesGiven (.attach ask offered) effects, e.2 = .ok (nameOf e.1)) :
    ∃ news, Balances nameOf s (s.register .dependencyAttached (s.roster.attach ask offered)).1
        (s.register .dependencyAttached (s.roster.attach ask offered)).2 news ∧
      Logged nameOf (s.register .dependencyAttached (s.roster.attach ask offered)).1
        (log ++ news) := by
  refine hl.step_register hapart rfl Roster.attach_of_not_accepted fun name haccepted => ?_
  rcases Roster.of_attach_accepted haccepted with ⟨who, -, rfl, -, -, hinit, hafter⟩
  rcases Roster.answer_of_attach_accepted haccepted with ⟨_, heq, hanswer⟩
  cases heq
  have htold := hanswer.symm.trans (answer_of_offered (.inr rfl) hnames)
  rw [hafter, Except.ok.inj htold, List.map_append]
  exact ⟨hinit, hinit, .attached _⟩

/-- A start is accepted. With that the registrations are over. -/
theorem of_startAdmitted (hl : Logged nameOf s log) (hs : s.Sound)
    (hstopped : s.roster.stopped = true → s.roster.initialized = true)
    (hp : s.startPhase? call = some .entering) {listening : Except String Unit} {server : ι}
    {roster : Roster ι}
    (haccept : s.roster.admitStart s.settings.signals listening = .ok (server, roster)) :
    Logged nameOf ({ s with roster }.setStart call (.admitted server))
      (log ++ [startingNotice (nameOf server)]) := by
  rcases Roster.of_admitStart haccept with ⟨hinit, hserver, rfl⟩
  have hopen : s.roster.stopped = false :=
    Bool.eq_false_iff.mpr fun h => Bool.eq_false_iff.mp hinit (hstopped h)
  have hc := startPhase?_eq_some.mp hp
  cases hl with
  | started _ hunderway _ =>
      -- A second start is refused.
      rw [hunderway.initialized] at hinit
      cases hinit
  | unstarted _ hregistrations hnone =>
      rw [hserver, Option.map_some] at hregistrations
      -- Behind the event of the start nothing is told yet, neither of it nor of a stop.
      have hunderway : Underway nameOf ({ s with
          roster := { s.roster with initialized := true } }.setStart call (.admitted server))
          server [] [] [] := by
        refine ⟨rfl, hserver, .nothing, ⟨call, fun i q hq haccepted => ?_⟩, ?_, fun _ => rfl,
          fun i q hq hin => ?_⟩
        · -- It is the one start that was accepted.
          rw [startPhase?_set hc rfl] at hq
          by_cases hi : i = call
          · rw [if_pos hi] at hq
            cases hq
            exact ⟨hi, rfl, rfl⟩
          · rw [if_neg hi] at hq
            rw [hnone i q hq] at haccepted
            cases haccepted
        · change StopBlocks _ _ s.roster.stopped []
          rw [hopen]
          exact .nothing
        · -- A stop that has begun still waits at the gate, since without a start it is not let in.
          rw [stopPhase?_set hc rfl] at hq
          split at hq
          · cases hq
          · rw [(hs i q hq).eq_entering hin hinit]
            exact .entering nameOf _
      exact .started hregistrations hunderway .nil

/-- A start that was accepted goes on. -/
theorem step_startMoved (hl : Logged nameOf s log) {p q : StartPhase ι}
    (hapart : Apart s a (s.setStart call q) effects) (hcalm : s.interrupted a effects = [])
    (hnames : ∀ e ∈ s.namesGiven a effects, e.2 = .ok (nameOf e.1))
    (hp : s.startPhase? call = some p) (hmove : StartMove s call p a effects q) :
    ∃ news, Balances nameOf s (s.setStart call q) effects news ∧
      Logged nameOf (s.setStart call q) (log ++ news) := by
  have hc := startPhase?_eq_some.mp hp
  cases hmove with
  | @name server name =>
      cases answer_of_nameForStart hnames hp
      refine ⟨[], balances_quiet rfl (owed_set hc rfl rfl), ?_⟩
      rw [List.append_nil]
      exact hl.of_start_silent hapart rfl hp rfl rfl fun _ _ => id
  | announce =>
      -- What is told now was owed since the start was accepted.
      refine ⟨[], balances_turn hcalm rfl rfl hc rfl rfl, ?_⟩
      rw [List.append_nil]
      exact hl.of_start_silent hapart rfl hp rfl rfl fun _ _ => id
  | @exited name number _ =>
      refine ⟨[exitedNotice name], balances_turn hcalm rfl rfl hc rfl rfl, ?_⟩
      refine hl.of_start hapart rfl hp rfl rfl fun server start _ hrecounts => ?_
      rcases hrecounts with ⟨rfl, rfl⟩
      refine ⟨.exited, fun q hq => ?_⟩
      cases hq
      exact ⟨rfl, rfl⟩

/-- A start that was accepted ends. -/
theorem step_startEnded (hl : Logged nameOf s log) {p : StartPhase ι} {o : Outcome}
    (hapart : Apart s a (s.setCall call (.ended o)) (effects ++ [.finished call o]))
    (hcalm : s.interrupted a (effects ++ [.finished call o]) = [])
    (hnames : ∀ e ∈ s.namesGiven a (effects ++ [.finished call o]), e.2 = .ok (nameOf e.1))
    (hp : s.startPhase? call = some p) (haccepted : p.isAccepted = true)
    (hend : StartEnd s call p a effects o) :
    ∃ news, Balances nameOf s (s.setCall call (.ended o)) (effects ++ [.finished call o]) news ∧
      Logged nameOf (s.setCall call (.ended o)) (log ++ news) := by
  have hc := startPhase?_eq_some.mp hp
  cases hend with
  | refused _ => cases haccepted
  | nameless =>
      -- A server that tells its name does not break off.
      cases answer_of_nameForStart hnames hp
  | @heeded name exited signal _ =>
      -- The server may have exited before the signal is heeded, and then
      -- that is in the log already.
      refine ⟨[heededNotice signal], balances_turn hcalm rfl rfl hc rfl rfl, ?_⟩
      refine hl.of_start hapart rfl hp rfl rfl fun server start _ hrecounts => ?_
      rcases hrecounts with ⟨rfl, rfl⟩
      cases exited with
      | false => exact ⟨.heeded signal, nofun⟩
      | true => exact ⟨.exitedHeeded signal, nofun⟩
  | @failed name number result cause _ _ =>
      refine ⟨[failedNotice name cause], balances_turn hcalm rfl rfl hc rfl rfl, ?_⟩
      refine hl.of_start hapart rfl hp rfl rfl fun server start _ hrecounts => ?_
      rcases hrecounts with ⟨rfl, rfl⟩
      exact ⟨.failed cause, nofun⟩

/-- A step that no stop takes keeps the log and the service together. -/
theorem step_elsewhere (hl : Logged nameOf s log) (hs : s.Sound)
    (hstopped : s.roster.stopped = true → s.roster.initialized = true)
    (hcalm : s.interrupted a effects = [])
    (hnames : ∀ e ∈ s.namesGiven a effects, e.2 = .ok (nameOf e.1))
    (h : StepElsewhere s a t effects) :
    ∃ news, Balances nameOf s t effects news ∧ Logged nameOf t (log ++ news) := by
  have hapart := h.apart
  -- Of most steps nothing comes that the log would tell of.
  have hquiet : lifecycleIn (publishedIn effects) = [] → t.owed nameOf = s.owed nameOf →
      t.roster = s.roster → s.KeepsStarts t →
      ∃ news, Balances nameOf s t effects news ∧ Logged nameOf t (log ++ news) := by
    intro htold howed hroster hkeeps
    refine ⟨[], balances_quiet htold howed, ?_⟩
    rw [List.append_nil]
    exact hl.of_quiet hapart hroster hkeeps
  cases h with
  -- Registrations: the event is owed once the registration is accepted, and
  -- paid by its announcement.
  | serve => exact hl.step_serve hapart hnames
  | attach => exact hl.step_attach hapart hnames
  | @announceRegistered call notice hc =>
      refine ⟨[], balances_turn hcalm rfl rfl hc rfl rfl, ?_⟩
      rw [List.append_nil]
      exact hl.of_quiet hapart rfl (keepsStarts_of_set hc rfl nofun)
  | @begin kind =>
      refine hquiet rfl ((owed_append rfl).trans ?_) rfl (keepsStarts_of_append rfl ?_)
      · cases kind <;> exact List.append_nil _
      · intro p hp
        cases kind with
        | start => cases hp; rfl
        | stop | status => cases hp
  -- The server's task tells of its end through the start that waits for it.
  | runServer _ => exact hquiet rfl rfl rfl (keepsStarts_of_same rfl)
  | endServer _ =>
      refine hquiet ?_ rfl rfl (keepsStarts_of_same rfl)
      exact congrArg lifecycleIn (publishedIn_woken s.waitingStarts)
  | hear => exact hquiet rfl rfl rfl (keepsStarts_of_same rfl)
  | @startAdmitted call listening server roster hp haccept =>
      -- A start that is accepted is told at once; its launch is silent.
      refine ⟨[startingNotice (nameOf server)], ?_, hl.of_startAdmitted hs hstopped hp haccept⟩
      exact balances_turn hcalm rfl rfl (startPhase?_eq_some.mp hp) rfl rfl
  | @launched call server name hp =>
      refine ⟨[], balances_quiet rfl (owed_set (startPhase?_eq_some.mp hp) rfl rfl), ?_⟩
      rw [List.append_nil]
      exact hl.of_start_silent hapart rfl hp rfl rfl fun _ _ => id
  | startMoved hp hmove => exact hl.step_startMoved hapart hcalm hnames hp hmove
  | @startEnded call p _ _ o hp hend =>
      by_cases haccepted : p.isAccepted = true
      · exact hl.step_startEnded hapart hcalm hnames hp haccepted hend
      · -- It was refused, and nothing is told of that.
        have hc := startPhase?_eq_some.mp hp
        cases hend with
        | @refused listening refusal _ =>
            refine hquiet ?_ (owed_set hc rfl rfl) rfl (keepsStarts_of_set hc rfl nofun)
            cases refusal <;> rfl
        | nameless | heeded _ | failed _ _ => exact absurd rfl haccepted
  | @statusEntered call hp =>
      -- Questions about the health are told by an event that is not one of the lifecycle.
      have hc := statusPhase?_eq_some.mp hp
      refine hquiet ?_ (owed_set hc rfl rfl) rfl (keepsStarts_of_set hc rfl nofun)
      exact congrArg lifecycleIn (filterMap_spawnEffects (fun _ => rfl) _)
  | @statusMoved call p q _ _ hp hmove =>
      have hc := statusPhase?_eq_some.mp hp
      refine hquiet ?_ (owed_set hc rfl rfl) rfl (keepsStarts_of_set hc rfl nofun)
      cases hmove <;> rfl
  | @statusEnded call p _ _ o hp hend =>
      have hc := statusPhase?_eq_some.mp hp
      refine hquiet ?_ (owed_set hc rfl rfl) rfl (keepsStarts_of_set hc rfl nofun)
      cases hend
      rfl

/-- The last notice of a stop completes its block. -/
theorem of_completed {registrations start stops rest told : List Notice} {server : ι}
    {last : Notice}
    (hregistrations : Registrations (some (nameOf server)) (s.roster.dependencies.map nameOf)
      registrations)
    (hunderway : Underway nameOf s server start (stops ++ (rest ++ [last])) [])
    (htold : Shuffle start (stops ++ rest) told) :
    Logged nameOf s (registrations ++ startingNotice (nameOf server) :: told ++ [last]) := by
  rw [List.append_assoc, List.cons_append]
  refine .started hregistrations hunderway ?_
  rw [List.append_nil, ← List.append_assoc]
  exact htold.append_right [last]

/-- A stop goes on. Marking the service completes its block; everything else adds to
    what has been told of it. -/
theorem step_stopMoved (hl : Logged nameOf s log) (hg : s.Gated) (hs : s.Sound)
    (hserver : s.roster.initialized = true → s.roster.server.isSome = true)
    (hcalm : s.interrupted a effects = [])
    (hnames : ∀ e ∈ s.namesGiven a effects, e.2 = .ok (nameOf e.1)) {p q : StopPhase ι}
    (hp : s.stopPhase? call = some p) (hmove : StopMove s call p a effects q) :
    ∃ news, Balances nameOf s ({ s with
        roster := p.rosterAfter s.roster
        taskCount := s.taskCount + p.toSpawn.length }.setStop call q) effects news ∧
      Logged nameOf ({ s with
        roster := p.rosterAfter s.roster
        taskCount := s.taskCount + p.toSpawn.length }.setStop call q) (log ++ news) := by
  have hc := stopPhase?_eq_some.mp hp
  have hsound := hs call p hp
  cases hl with
  | unstarted hinit _ _ =>
      -- A service that was not started accepts no stop.
      rw [(hmove.isOpen hsound).1] at hinit
      cases hinit
  | @started registrations start stops rest told server hregistrations hunderway htold =>
      have hshown := hunderway.shows call p hp hmove.isInside.1
      -- The mark closes the block of this stop. Every other move adds to the
      -- block that is still open.
      by_cases hmark : q = .marked
      · subst hmark
        cases hmove with
        | mark =>
            -- The service is not stopped before the mark, so another block may
            -- follow those in the log.
            have hblocks := hunderway.blocks
            rw [hsound.2] at hblocks
            have hall := hblocks.append (hshown.stopBlock_stopped hunderway.server_eq)
            refine ⟨[stoppedNotice], balances_turn hcalm rfl rfl hc rfl rfl, ?_⟩
            exact .of_completed hregistrations (hunderway.of_stopMoved hg hp .mark hall .marked) htold
      · rcases hmove.recounts hp hsound hserver hnames hmark hshown with ⟨hroster, hrest⟩
        refine ⟨publishedIn effects, hmove.balances hcalm hp hmark, ?_⟩
        have hblocks : StopBlocks (nameOf server) (s.roster.dependencies.map nameOf)
            (p.rosterAfter s.roster).stopped stops := by
          rw [hroster]
          exact hunderway.blocks
        rw [← hroster] at hrest hregistrations
        rw [List.append_assoc, List.cons_append]
        refine .started hregistrations (hunderway.of_stopMoved hg hp hmove hblocks hrest) ?_
        rw [← List.append_assoc]
        exact htold.append_right (publishedIn effects)

/-- A stop ends. If it was accepted its block is complete now. -/
theorem step_stopEnded (hl : Logged nameOf s log) (hg : s.Gated) (hs : s.Sound)
    {p : StopPhase ι} {o : Outcome} {shown : List (Effect ι)}
    (hcalm : s.interrupted a (shown ++ (s.finishStop call o).2) = [])
    (hnames : ∀ e ∈ s.namesGiven a (shown ++ (s.finishStop call o).2), e.2 = .ok (nameOf e.1))
    (hp : s.stopPhase? call = some p) (hend : StopEnd s call p a shown o) :
    ∃ news, Balances nameOf s (s.finishStop call o).1 (shown ++ (s.finishStop call o).2) news ∧
      Logged nameOf (s.finishStop call o).1 (log ++ news) := by
  have hin := hend.isInside
  have hsound := hs call p hp
  have hkeeps := keepsStarts_finishStop hg hp hin o
  -- What an end shows pays what the stop owed, whichever way it ends.
  have hbalances : ∀ news,
      lifecycleIn (publishedIn shown) = (Call.stopping p).owes nameOf ++ news →
      Balances nameOf s (s.finishStop call o).1 (shown ++ (s.finishStop call o).2) news :=
    fun _ => hend.balances hg hcalm hp
  cases hl with
  | unstarted hinit hregistrations hnone =>
      -- Before the start a stop is still at the gate, and there it can only be refused.
      have hentering := hsound.eq_entering hin hinit
      subst hentering
      cases hend with
      | refused _ =>
          refine ⟨[], hbalances [] rfl, ?_⟩
          rw [List.append_nil]
          refine .unstarted ?_ ?_ fun i q hq => Bool.eq_false_iff.mpr fun haccepted => ?_
          · rw [roster_finishStop]
            exact hinit
          · rw [roster_finishStop]
            exact hregistrations
          · rw [hnone i q (hkeeps i q hq haccepted)] at haccepted
            cases haccepted
  | @started registrations start stops rest told server hregistrations hunderway htold =>
      have hshown := hunderway.shows call p hp hin
      rw [← roster_finishStop s call o] at hregistrations
      cases hend with
      | refused _ =>
          cases hshown with
          | unmarked _ hrecords _ _ =>
              rw [StopPhase.Records] at hrecords
              subst hrecords
              refine ⟨[], hbalances [] rfl, ?_⟩
              rw [List.append_nil]
              exact .started hregistrations (hunderway.of_stopEnded hg hp hin _ hunderway.blocks) htold
      | @nameless server deps panic =>
          -- A server that tells its name does not break off.
          cases answer_of_nameForStop hnames hp
      | @failed tasks tray causes htray htasks hcauses =>
          -- The failures close the block of this stop, and the service is not marked as stopped.
          have hblocks := hunderway.blocks
          rw [hsound.1.2] at hblocks
          have hall := hblocks.append (hshown.stopBlock_failed hsound.2 htray htasks
            hunderway.server_eq hcauses (some (toString causes.length ++ " failure(s)")))
          rw [← hsound.1.2] at hall
          refine ⟨_, hbalances _ rfl, ?_⟩
          exact .of_completed hregistrations (hunderway.of_stopEnded hg hp hin _ hall) htold
      | done =>
          -- The block was closed when the stop was marked.
          cases hshown with
          | unmarked hunmarked _ _ _ => exact absurd rfl hunmarked
          | marked =>
              refine ⟨[], hbalances [] rfl, ?_⟩
              rw [List.append_nil]
              exact .started hregistrations (hunderway.of_stopEnded hg hp hin _ hunderway.blocks) htold

/-- A stop comes to the turnstile. -/
theorem of_approached (hl : Logged nameOf s log) (hp : s.stopPhase? call = some .arriving) :
    Logged nameOf ({ s with turnstile := s.turnstile.enter call }.setStop call
      (if s.turnstile.holder.isNone then .entering else .queued)) log := by
  cases hl with
  | unstarted hinit hregistrations hnone =>
      refine .unstarted hinit hregistrations fun i q hq => ?_
      rw [startPhase?_set (stopPhase?_eq_some.mp hp) rfl] at hq
      split at hq
      · cases hq
      · exact hnone i q hq
  | started hregistrations hunderway htold =>
      exact .started hregistrations (hunderway.of_approached hp) htold

/-- A step keeps the log and the service together. -/
theorem step (hl : Logged nameOf s log) {settings : Settings} (hs : Reachable settings s)
    (hcalm : s.interrupted a effects = [])
    (hnames : ∀ e ∈ s.namesGiven a effects, e.2 = .ok (nameOf e.1)) (h : Step s a t effects) :
    ∃ news, Balances nameOf s t effects news ∧ Logged nameOf t (log ++ news) := by
  cases h with
  | elsewhere h => exact hl.step_elsewhere hs.sound hs.initialized_of_stopped hcalm hnames h
  | @approached call hp =>
      refine ⟨[], balances_quiet rfl (owed_set (stopPhase?_eq_some.mp hp) rfl ?_), ?_⟩
      · cases s.turnstile.holder <;> rfl
      · rw [List.append_nil]
        exact hl.of_approached hp
  | stopMoved hp hmove =>
      exact hl.step_stopMoved hs.gated hs.sound hs.server_of_initialized hcalm hnames hp hmove
  | stopEnded hp hend => exact hl.step_stopEnded hs.gated hs.sound hcalm hnames hp hend

/-- The log is the beginning of a chronicle. -/
theorem exists_chronicle (hl : Logged nameOf s log) (hg : s.Gated) (hs : s.Sound) :
    ∃ rest, Chronicle (log ++ rest) := by
  cases hl with
  | @unstarted log _ hregistrations _ => exact ⟨[], by rw [List.append_nil]; exact .unstarted hregistrations⟩
  | @started registrations start stops rest told server hregistrations hunderway htold =>
      -- Either no block is open, and the log is a chronicle as it stands, or the one that is
      -- open can be brought to an end.
      rcases hunderway.rest_cases hg hs with hnone | ⟨hopen, hrest⟩
      · subst hnone
        rw [List.append_nil] at htold
        refine ⟨[], ?_⟩
        rw [List.append_nil]
        exact .started hregistrations hunderway.trace hunderway.blocks htold
      · rcases hrest.exists_completion with ⟨more, well, hblock⟩
        have hblocks := hunderway.blocks
        rw [hopen] at hblocks
        have hwhole := htold.append_right more
        rw [List.append_assoc] at hwhole
        refine ⟨more, ?_⟩
        rw [List.append_assoc, List.cons_append]
        exact .started hregistrations hunderway.trace (hblocks.append hblock) hwhole

/-- The log tells the roster. -/
theorem ofLog_eq (hl : Logged nameOf s log) (hg : s.Gated) (hs : s.Sound)
    (hstopped : s.roster.stopped = true → s.roster.initialized = true) :
    Roster.ofLog log = s.roster.byName nameOf := by
  cases hl with
  | unstarted hinit hregistrations _ =>
      have hopen : s.roster.stopped = false :=
        Bool.eq_false_iff.mpr fun h => Bool.eq_false_iff.mp hinit (hstopped h)
      rw [hregistrations.ofLog_eq, Roster.byName, hinit, hopen]
  | @started registrations start stops rest told server hregistrations hunderway htold =>
      -- An open block holds no event the roster is read off, just as the
      -- block of a stop that failed.
      have hrest : ∀ n ∈ rest, n.kind.isEntry = false := by
        rcases hunderway.rest_cases hg hs with rfl | ⟨-, hrest⟩
        · exact List.forall_mem_nil _
        · exact hrest.isEntry
      rw [Roster.ofLog, List.foldl_append, ← Roster.ofLog, hregistrations.ofLog_eq, List.foldl_cons,
        htold.foldl_enter hunderway.trace.isEntry, List.foldl_append, hunderway.blocks.foldl_enter,
        Roster.foldl_enter_of_kinds hrest, Roster.byName, hunderway.initialized,
        hunderway.server_eq]
      rfl

end Logged

/-- What is seen of one step of a run is among what is observed of the run. -/
theorem look_subset_observe {α : Type} (look : System ι → Action ι → List (Effect ι) → List α)
    {u v : System ι} {before actions : List (Action ι)} {shown now : List (Effect ι)}
    (h : s.run actions = some (t, effects)) (hpre : before ++ [a] <+: actions)
    (hrun : s.run before = some (u, shown)) (hact : u.act a = some (v, now)) :
    look u a now ⊆ s.observe look actions := by
  rcases hpre with ⟨later, rfl⟩
  have hfirst : s.run (before ++ [a]) = some (v, shown ++ now) :=
    run_append_singleton.mpr ⟨u, shown, now, hrun, hact, rfl⟩
  rw [observe_append look hfirst, observe_append_singleton look hrun hact]
  exact fun e he => List.mem_append_left _ (List.mem_append_right _ he)

/-- The log of a run, with what is owed to it in the end, is about the service that the
    run has led to. -/
theorem logged_of_run {settings : Settings} {actions : List (Action ι)}
    (h : (System.initial settings).run actions = some (s, effects))
    (hcalm : (System.initial settings).observe interrupted actions = [])
    (hnames : ∀ e ∈ (System.initial settings).observe namesGiven actions,
      e.2 = .ok (nameOf e.1)) :
    Logged nameOf s (lifecycleIn (publishedIn effects) ++ s.owed nameOf) := by
  -- The induction is on the run. It carries the effects along, since what is published
  -- and what is owed make up the log together.
  have hall := run_induction (fun before (u : System ι) => ∀ shown,
      (System.initial settings).run before = some (u, shown) →
      Logged nameOf u (lifecycleIn (publishedIn shown) ++ u.owed nameOf)) ?_ ?_ h
  · exact hall effects h
  · intro shown hnil
    cases hnil
    exact .unstarted rfl .nothing fun _ _ => nofun
  · rintro before u first a v now hpre hbefore hu hact shown hrun
    rcases run_append_singleton.mp hrun with ⟨u', first', last, hbefore', hact', rfl⟩
    cases hbefore.symm.trans hbefore'
    cases hact.symm.trans hact'
    -- Nothing is interrupted and every name is told in the whole run, so in this step too.
    have hcalm' : u.interrupted a now = [] := by
      have hsub := look_subset_observe interrupted h hpre hbefore hact
      rw [hcalm] at hsub
      exact List.subset_nil.mp hsub
    have hnames' : ∀ e ∈ u.namesGiven a now, e.2 = .ok (nameOf e.1) :=
      fun e he => hnames e (look_subset_observe namesGiven h hpre hbefore hact he)
    rcases (hu first hbefore).step (Reachable.initial.run hbefore) hcalm' hnames'
      (step_of_act hact) with ⟨news, hbalances, hlogged⟩
    -- What was owed is paid first, and what is owed now comes last.
    rw [Balances] at hbalances
    rw [publishedIn_append, lifecycleIn_append, List.append_assoc, hbalances, ← List.append_assoc]
    exact hlogged

end System

namespace Service

variable {s t : Service ι} {effects : List (ServiceEffect ι)} {actions : List (ServiceAction ι)}

/-- What the calls do in a run of a service. -/
def callsIn (actions : List (ServiceAction ι)) : List (Action ι) :=
  actions.filterMap fun
    | .call a => some a
    | .relay _ => none

theorem callsIn_append (before after : List (ServiceAction ι)) :
    callsIn (before ++ after) = callsIn before ++ callsIn after :=
  List.filterMap_append

/-- A refusal is not about the life of the service. -/
theorem lifecycleIn_emit (f : Fanout) (e : Event) : lifecycleIn (f.emit e).2 = [] := by
  rw [lifecycleIn, List.filter_eq_nil_iff]
  intro n hn
  rcases List.mem_flatMap.mp hn with ⟨m, -, hn⟩
  unfold Fanout.offer at hn
  repeat' split at hn
  · cases hn
  · cases hn
  · rw [List.mem_singleton.mp hn]
    exact Bool.false_ne_true

theorem lifecycleIn_finish (m : Mailbox) (how : Handling) :
    lifecycleIn (m.finish how).2.toList = [] := by
  cases how <;> rfl

/-- What the relay and the workers publish is about those who listen. -/
theorem lifecycleIn_moved {r r' : Relay} {a : RelayAction} {shown : List RelayEffect}
    (h : r.Move a r' shown) :
    lifecycleIn (noticesIn (shown.map (.relay : RelayEffect → ServiceEffect ι))) = [] := by
  cases h with
  | took _ _ => rw [noticesIn_took, lifecycleIn_emit]
  | finished _ _ => rw [noticesIn_finished, lifecycleIn_finish]
  | missed _ _ | picked _ _ | retired _ _ | closed _ _ _ _ => rfl

/-- A run of a service is one of its calls, and those who listen add nothing to the
    log. -/
theorem run_system (h : s.run actions = some (t, effects)) :
    ∃ shown, s.system.run (callsIn actions) = some (t.system, shown) ∧
      lifecycleIn (noticesIn effects) = lifecycleIn (publishedIn shown) := by
  refine run_induction (fun before u effects => ∃ shown,
    s.system.run (callsIn before) = some (u.system, shown) ∧
      lifecycleIn (noticesIn effects) = lifecycleIn (publishedIn shown)) ⟨[], rfl, rfl⟩ ?_ h
  rintro before u first a v now - - ⟨shown, hrun, htold⟩ hact
  rw [callsIn_append, noticesIn_append, lifecycleIn_append, htold]
  cases step_of_act hact with
  | @called a system more hcall =>
      refine ⟨shown ++ more, System.run_append_singleton.mpr ⟨_, _, _, hrun, hcall, rfl⟩, ?_⟩
      rw [noticesIn_call, System.publishedIn_append, lifecycleIn_append]
  | moved hmove =>
      -- The relay only publishes about subscribers, and the calls take no step.
      refine ⟨shown, ?_, ?_⟩
      · rw [← hrun]
        exact congrArg s.system.run (List.append_nil _)
      · rw [lifecycleIn_moved hmove, List.append_nil]
  | gone _ =>
      refine ⟨shown, ?_, List.append_nil _⟩
      rw [← hrun]
      exact congrArg s.system.run (List.append_nil _)

/-- The lifecycle events of a run are the beginning of a chronicle, and whenever no call
    is in the middle of its turn they tell the roster. -/
theorem events_tell_the_service {settings : Settings} {subscribers : List (String × Nat)}
    (hbuild : build settings subscribers = .ok s) (hrun : s.run actions = some (t, effects))
    (hcalm : s.system.observe System.interrupted (callsIn actions) = [])
    (hnames : ∀ e ∈ s.system.observe System.namesGiven (callsIn actions),
      e.2 = .ok (nameOf e.1)) :
    (∃ rest, Chronicle (lifecycleIn (noticesIn effects) ++ rest)) ∧
      s.Always actions fun u shown => u.system.midway = [] →
        Roster.ofLog (lifecycleIn (noticesIn shown)) = u.system.roster.byName nameOf := by
  have hinitial : s.system = System.initial settings := by
    rw [eq_fresh_of_build hbuild]
    rfl
  rw [hinitial] at hcalm hnames
  constructor
  · -- Past the end of the run the chronicle goes on as the open stop may end.
    rcases run_system hrun with ⟨shown, hcalls, htold⟩
    rw [hinitial] at hcalls
    have hreach : Reachable settings t.system := Reachable.initial.run hcalls
    rcases (System.logged_of_run hcalls hcalm hnames).exists_chronicle hreach.gated hreach.sound
      with ⟨rest, hchronicle⟩
    rw [List.append_assoc, ← htold] at hchronicle
    exact ⟨_, hchronicle⟩
  · rintro before u first ⟨later, rfl⟩ hbefore hquiet
    rcases run_system hbefore with ⟨shown, hcalls, htold⟩
    rw [hinitial] at hcalls
    -- What holds of the whole run holds of its beginning.
    rw [callsIn_append, System.observe_append _ hcalls] at hcalm hnames
    have hreach : Reachable settings u.system := Reachable.initial.run hcalls
    have hlogged := System.logged_of_run hcalls (List.append_eq_nil_iff.mp hcalm).1
      fun e he => hnames e (List.mem_append_left _ he)
    rw [System.owed_eq_nil hquiet, List.append_nil, ← htold] at hlogged
    exact hlogged.ofLog_eq hreach.gated hreach.sound hreach.initialized_of_stopped

/-- A server that exits while a first stop fails, a signal in the block of a second, and
    a subscriber that is told of too much at once. -/
theorem events_tell_the_service_second_stop :
    let nameOf : Nat → String := fun who => if who = 0 then "api" else "db"
    let actions : List (ServiceAction Nat) := [
      .call (.serve (fun _ _ => .ok "api") (some 0)), .call (.announceRegistered 0),
      .call (.attach (fun _ _ => .ok "db") (some 1)), .call (.announceRegistered 1),
      .call (.begin .start), .call (.begin .stop), .call (.begin .stop),
      .call (.enterStart 2 (.ok ())), .call (.nameForStart 2 (.ok "api")), .relay .take,
      .relay .take, .call (.announceStart 2), .call (.launch 2), .call (.approach 3),
      .call (.enterStop 3), .call (.announceStop 3), .call (.nameForStop 3 (.ok "api")),
      .call .runServer, .call (.endServer (.ok (.ok ()))), .call (.joinServer 2),
      .call (.approach 4), .call (.endDraining 3 (.ok (.ok ()))), .call (.reportServer 3),
      .call (.spawnCloses 3), .call (.runClose 3 0 (.ok "db")),
      .call (.endClose 3 0 (.ok (.error (.plain "busy")))), .call (.joinClose 3),
      .call (.concludeStop 3), .call (.enterStop 4), .call (.announceStop 4),
      .call (.nameForStop 4 (.ok "api")), .call (.endDraining 4 (.ok (.ok ()))),
      .call (.reportServer 4), .call (.spawnCloses 4), .call (.runClose 4 0 (.ok "db")),
      .call (.hear .terminate), .call (.heed 2), .call (.endClose 4 0 (.ok (.ok ()))),
      .call (.joinClose 4), .call (.concludeStop 4), .call (.markStopped 4),
      .call (.announceStopped 4)]
    let kinds : List EventKind := [.serverRegistered, .dependencyAttached, .subscriberOverflow,
      .serviceStarting, .serviceStopping, .serverExited, .serverStopped, .closeFailed,
      .stopFailed, .serviceStopping, .serverStopped, .shutdownRequested, .dependencyClosed,
      .serviceStopped]
    let roster : Roster String :=
      { initialized := true, stopped := true, server := some "api", dependencies := ["db"] }
    ∃ s effects, (fresh Settings.standard [("slow", 1)]).run actions = some (s, effects) ∧
      (noticesIn effects).map Notice.kind = kinds ∧ s.system.midway = [] ∧
      s.system.roster.byName nameOf = roster ∧
      (∃ rest, Chronicle (lifecycleIn (noticesIn effects) ++ rest)) ∧
      Roster.ofLog (lifecycleIn (noticesIn effects)) = s.system.roster.byName nameOf := by
  intro nameOf actions kinds roster
  have hlook : ((fresh Settings.standard [("slow", 1)]).run actions).map (fun last =>
      ((noticesIn last.2).map Notice.kind, last.1.system.midway,
        last.1.system.roster.byName nameOf)) = some (kinds, [], roster) := by
    decide +kernel
  rcases Option.map_eq_some_iff.mp hlook with ⟨⟨s, effects⟩, hrun, hlast⟩
  simp only [Prod.mk.injEq] at hlast
  rcases hlast with ⟨hkinds, hquiet, hroster⟩
  have hbuild : build Settings.standard [("slow", 1)] =
      .ok (fresh Settings.standard [("slow", 1)] : Service Nat) := rfl
  have hnamed : (System.initial Settings.standard).observe System.namesGiven (callsIn actions) =
      [(0, .ok "api"), (0, .ok "api"), (1, .ok "db"), (1, .ok "db"), (0, .ok "api"),
        (0, .ok "api"), (1, .ok "db"), (0, .ok "api"), (1, .ok "db")] := rfl
  have hnames : ∀ e ∈ (System.initial Settings.standard).observe System.namesGiven
      (callsIn actions), e.2 = .ok (nameOf e.1) := by
    rw [hnamed]
    simp [nameOf]
  rcases events_tell_the_service hbuild hrun rfl hnames with ⟨hchronicle, htell⟩
  exact ⟨s, effects, hrun, hkinds, hquiet, hroster, hchronicle, htell.last hrun hquiet⟩

end Service

end Steward
