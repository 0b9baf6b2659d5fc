import Steward.Proofs.Course
import Steward.Proofs.Server

/-!
# One Start

That a service starts once, and what becomes of the start that was accepted.

Any number of starts can be on their way, and stops, questions and signals come in
between. The start that was accepted waits for two things at once, for a signal and
for the server, and takes what comes first. An observer who keeps nothing of a
service but the signals that have arrived and what the server has returned can tell
from that how the start has ended, and what it has told on the way (`Concluded`).

Nothing else ends it. Other calls leave a waiting start where it is. The context
that a start takes is handed on to the server unseen, so that it is cancelled can
show only in what the server returns, and a server that returns without an error
leaves the start waiting for a signal.

The server must tell its name. A start is over with nothing told if the server
panics there, which is the matter of `Steward.Proofs.Containment`.

## Main definitions

* `StartPhase.isAccepted`, `StartPhase.Tells`: Whether a start on its way was
  accepted, and what it has told.
* `Concluded`: The two ways in which an accepted start ends.
* `Heeds`: A start can be brought to a good end by its own steps.
* `Runs`: What is so of an accepted start.

## Theorems

* `Step.starts`: One more action, for the one who follows a start.
* `starting_of_run`: What a start has told is what its phase says.
* `Step.waits`: Only a signal and a failed server end a start that waits.
* `heeds_of_accepted`: A signal that has arrived lets the start end.
* `start_reports`: A service starts once, and its start reports how it has ended.
-/

namespace Steward

variable {ι : Type}

/-- What a start has told when it waits, and whether the server has returned without
    an error by then. -/
def launchNotices (name : String) (exited : Bool) : List Notice :=
  { kind := .serviceStarting, integration := some name } ::
    if exited then [{ kind := .serverExited, integration := some name }] else []

/-- What a start tells when a signal ends it. -/
def heededNotice (signal : Signal) : Notice :=
  { kind := .shutdownRequested, reason := some signal.name }

/-- What a start tells when the server has failed. -/
def failedNotice (name : String) (cause : Cause) : Notice :=
  { kind := .serverFailed, integration := some name, reason := some cause.text }

/-- Whether a start was accepted. -/
def StartPhase.isAccepted : StartPhase ι → Bool
  | .entering => false
  | .admitted _ | .named _ _ | .announced _ _ | .waiting _ _ => true

/-- What a start has told in a phase, with what the server has returned. -/
def StartPhase.Tells (returns : List Return) (told : List Notice) : StartPhase ι → Prop
  | .entering | .admitted _ | .named _ _ => told = []
  | .announced _ name => told = launchNotices name false
  | .waiting name exited =>
    told = launchNotices name exited ∧ (exited = true → .ok (.ok ()) ∈ returns)

namespace System

/-- How an accepted start has ended, and what it has told in all. It was under way
    in `s`, where `before` has led to, and `actions` came after. -/
inductive Concluded (settings : Settings) (before : List (Action ι)) (s : System ι) (call : Nat)
    (actions : List (Action ι)) (told : List Notice) : Outcome → Prop where
  /-- A signal had arrived, and of all that had it is the first in the settings. -/
  | heeded {front back : List (Action ι)} {name : String} {exited : Bool} {signal : Signal}
      (hsplit : actions = front ++ .heed call :: back)
      (harrived : signal ∈ (System.initial settings).arrivals (before ++ front))
      (hfirst : ∃ earlier later, settings.signals.list = earlier ++ signal :: later ∧
        ∀ other ∈ earlier, other ∉ (System.initial settings).arrivals (before ++ front))
      (hexited : exited = true → .ok (.ok ()) ∈ returnsIn (before ++ front))
      (htold : told = launchNotices name exited ++ [heededNotice signal]) :
    Concluded settings before s call actions told .done
  /-- The server had returned an error, or its task had died of a panic. -/
  | failed {front back : List (Action ι)} {w : System ι} {shown : List (Effect ι)}
      {name : String} {number : Nat} {result : Return} {cause : Cause}
      (hsplit : actions = front ++ .joinServer call :: back)
      (hfront : s.run front = some (w, shown)) (htask : w.serverTask = .ended number result)
      (hreturned : returnsIn (before ++ front) = [result])
      (hcause : result = .ok (.error cause) ∨
        ∃ panic, result = .error panic ∧ cause = .died number panic)
      (htold : told = launchNotices name false ++ [failedNotice name cause]) :
    Concluded settings before s call actions told (.failed (startFailure.addCause cause))

end System

/-- A start by what it has told: it is on its way, was refused, or was accepted and
    has ended. -/
def Call.Starts (settings : Settings) (before : List (Action ι)) (s : System ι) (call : Nat)
    (actions : List (Action ι)) (admitted : Prop) (told : List Notice) : Call ι → Prop
  | .starting p => (admitted ↔ p.isAccepted = true) ∧ p.Tells (returnsIn (before ++ actions)) told
  | .ended o =>
    (admitted ∧ System.Concluded settings before s call actions told o) ∨
    (¬ admitted ∧ told = [] ∧ ∃ refusal : StartRefusal, o = .failed refusal.failure)
  | _ => False

theorem mem_launchNotices {name : String} {exited : Bool} {n : Notice}
    (h : n ∈ launchNotices name exited) :
    n.kind = .serviceStarting ∨ n.kind = .serverExited := by
  cases exited with
  | false =>
      rw [List.mem_singleton.mp h]
      exact Or.inl rfl
  | true =>
      rcases List.mem_cons.mp h with rfl | hlast
      · exact Or.inl rfl
      · rw [List.mem_singleton.mp hlast]
        exact Or.inr rfl

theorem exited_launchNotices (name : String) (exited : Bool) :
    ((launchNotices name exited).filter fun n => n.kind = .serverExited).length ≤ 1 := by
  cases exited <;> exact Nat.le_of_ble_eq_true rfl

/-- A start on its way has told nothing yet, or that the service starts. -/
theorem StartPhase.Tells.eq {p : StartPhase ι} {returns : List Return} {told : List Notice}
    (h : p.Tells returns told) : told = [] ∨ ∃ name exited, told = launchNotices name exited := by
  cases p with
  | entering | admitted _ | named _ _ => exact Or.inl h
  | announced server name => exact Or.inr ⟨name, false, h⟩
  | waiting name exited => exact Or.inr ⟨name, exited, h.1⟩

theorem StartPhase.Tells.mono {p : StartPhase ι} {returns : List Return} {told : List Notice}
    (h : p.Tells returns told) (more : List Return) : p.Tells (returns ++ more) told := by
  cases p with
  | entering | admitted _ | named _ _ | announced _ _ => exact h
  | waiting name exited => exact ⟨h.1, fun hexited => List.mem_append_left _ (h.2 hexited)⟩

namespace System

variable {s t u : System ι} {call : Nat} {a : Action ι} {effects shown : List (Effect ι)}
  {settings : Settings} {before actions : List (Action ι)} {told : List Notice}
  {p : StartPhase ι} {o : Outcome}

theorem leftBehind_eq_error_iff {number : Nat} {result : Return} {cause : Cause} :
    ServerTask.leftBehind number result = .error cause ↔ result = .ok (.error cause) ∨
      ∃ panic, result = .error panic ∧ cause = .died number panic := by
  rcases result with panic | result
  · rw [ServerTask.leftBehind, Except.error.injEq]
    refine ⟨fun h => Or.inr ⟨panic, rfl, h.symm⟩, ?_⟩
    rintro (h | ⟨panic, h, rfl⟩)
    · cases h
    · rw [Except.error.inj h]
  · rw [ServerTask.leftBehind, Except.ok.injEq]
    refine ⟨Or.inl, ?_⟩
    rintro (h | ⟨panic, h, -⟩)
    · exact h
    · cases h

theorem Concluded.append (h : Concluded settings before s call actions told o) (a : Action ι) :
    Concluded settings before s call (actions ++ [a]) told o := by
  have hlonger : ∀ {front back : List (Action ι)} {last : Action ι},
      actions = front ++ last :: back → actions ++ [a] = front ++ last :: (back ++ [a]) := by
    rintro front back last rfl
    rw [List.append_assoc, List.cons_append]
  cases h with
  | heeded hsplit harrived hfirst hexited htold =>
      exact .heeded (hlonger hsplit) harrived hfirst hexited htold
  | failed hsplit hfront htask hreturned hcause htold =>
      exact .failed (hlonger hsplit) hfront htask hreturned hcause htold

theorem mem_admittedNow {i : Nat} (h : i ∈ s.admittedNow a effects) : a.call? = some i := by
  unfold admittedNow at h
  split at h
  · split at h
    · rw [List.mem_singleton.mp h]
      rfl
    · cases h
  · cases h

/-- A start that goes on tells what its phase says. -/
theorem StartMove.tells {q : StartPhase ι} {returns : List Return}
    (h : StartMove s call p a effects q) (hran : ∃ started, s.serverTask.Ran started returns)
    (htells : p.Tells returns told) :
    p.isAccepted = true ∧ q.isAccepted = true ∧ q.Tells returns (told ++ publishedIn effects) := by
  cases h with
  | name =>
      have htold : told = [] := htells
      subst htold
      exact ⟨rfl, rfl, rfl⟩
  | announce =>
      have htold : told = [] := htells
      subst htold
      exact ⟨rfl, rfl, rfl⟩
  | @exited name number htask =>
      rcases hran with ⟨started, hran⟩
      rw [htask] at hran
      -- The server that has exited returned once and without a failure.
      have hreturned : returns = [.ok (.ok ())] := hran.2
      rw [htells.1, hreturned]
      exact ⟨rfl, rfl, rfl, fun _ => List.mem_singleton.mpr rfl⟩

/-- A start that ends was refused with nothing told, or was accepted and has told
    how it ended. -/
theorem StartEnd.tells (h : StartEnd u call p a effects o) (hrun : s.run actions = some (u, shown))
    (hu : Observed settings (before ++ actions) u)
    (hname : ∀ panic, a ≠ .nameForStart call (.error panic))
    (htells : p.Tells (returnsIn (before ++ actions)) told) :
    (p.isAccepted = true ∧
      Concluded settings before s call (actions ++ [a]) (told ++ publishedIn effects) o) ∨
    (p.isAccepted = false ∧ u.admittedNow a effects = [] ∧ told ++ publishedIn effects = [] ∧
      ∃ refusal : StartRefusal, o = .failed refusal.failure) := by
  cases h with
  | @refused listening refusal hrefused =>
      have htold : told = [] := htells
      subst htold
      refine Or.inr ⟨rfl, ?_, ?_, refusal, rfl⟩
      · simp only [admittedNow, hrefused]
      · cases refusal <;> rfl
  | nameless => exact absurd rfl (hname _)
  | @heeded name exited signal hfirst =>
      rw [hu.settings_eq, hu.heard_eq] at hfirst
      have htold : told ++ [heededNotice signal] =
          launchNotices name exited ++ [heededNotice signal] := by
        rw [htells.1]
      -- The signal heeded is the first that arrived among those it listens for.
      rcases Signals.first?_eq_some_iff.mp hfirst with ⟨harrived, hfirst⟩
      exact Or.inl ⟨rfl, .heeded rfl harrived hfirst htells.2 htold⟩
  | @failed name number result cause htask hcause =>
      -- The server that has ended left its result and its cause behind.
      have hran := hu.ran
      rw [htask] at hran
      have htold : told ++ [failedNotice name cause] =
          launchNotices name false ++ [failedNotice name cause] := by
        rw [htells.1]
      exact Or.inl ⟨rfl,
        .failed rfl hrun htask hran.2 (leftBehind_eq_error_iff.mp hcause) htold⟩

/-- One more action, and what is seen of it by the one who follows a start. -/
theorem Step.starts (hrun : s.run actions = some (u, shown))
    (hu : Observed settings (before ++ actions) u) (hg : u.Gated)
    (hact : u.act a = some (t, effects))
    (hname : ∀ panic, a ≠ .nameForStart call (.error panic)) {c : Call ι} {admitted : Prop}
    (hc : u.calls[call]? = some c)
    (hstarts : c.Starts settings before s call actions admitted told) :
    (a.call? ≠ some call ∧ t.calls[call]? = some c ∧
      c.Starts settings before s call (actions ++ [a]) admitted told) ∨
    a.call? = some call ∧ ∃ c', t.calls[call]? = some c' ∧
      c'.Starts settings before s call (actions ++ [a])
        (admitted ∨ call ∈ u.admittedNow a effects) (told ++ publishedIn effects) := by
  have hstep := step_of_act hact
  have hlt := (List.getElem?_eq_some_iff.mp hc).1
  have hset : ∀ c', (u.calls.set call c')[call]? = some c' := fun c' =>
    List.getElem?_set_self hlt
  have hreturns : returnsIn (before ++ (actions ++ [a])) =
      returnsIn (before ++ actions) ++ returnsIn [a] := by
    rw [← List.append_assoc, returnsIn_append]
  cases c with
  | registering _ | stopping _ | checking _ => cases hstarts
  | ended o =>
      -- It takes no step any more, and how it ended is told by what came before.
      refine Or.inl ⟨fun hcall => hstep.caller_underway hcall o hc, hstep.ended_stays hg hc, ?_⟩
      exact hstarts.imp_left fun h => ⟨h.1, h.2.append a⟩
  | starting p =>
      rcases hstarts with ⟨hadmitted, htells⟩
      -- The server can return in a step of somebody else.
      have hmono := htells.mono (returnsIn [a])
      rw [← hreturns] at hmono
      cases hstep.startView hg (startPhase?_eq_some.mpr hc) with
      | beside hother hphase =>
          -- A step of another call leaves this start where it is.
          exact Or.inl ⟨hother, startPhase?_eq_some.mp hphase, hadmitted, hmono⟩
      | @admitted listening _ _ hp ha haccept ht hquiet =>
          -- The step that is accepted tells nothing yet, and neither does the launch.
          subst hp ha ht hquiet
          have hmem : call ∈ u.admittedNow (.enterStart call listening) [] := by
            simp only [admittedNow, haccept]
            exact List.mem_singleton.mpr rfl
          have hsilent : told ++ publishedIn ([] : List (Effect ι)) = [] :=
            (List.append_nil told).trans htells
          exact Or.inr ⟨rfl, _, hset _, iff_of_true (Or.inr hmem) rfl, hsilent⟩
      | launched hp ha ht hquiet =>
          subst hp ha ht hquiet
          refine Or.inr ⟨rfl, _, hset _, iff_of_true (Or.inl (hadmitted.mpr rfl)) rfl, ?_, ?_⟩
          · exact (List.append_nil told).trans htells
          · intro hexited
            cases hexited
      | move hmove ht =>
          -- Between its acceptance and its end the start tells what its move publishes.
          subst ht
          rcases hmove.tells ⟨_, hu.ran⟩ htells with ⟨hp, hq, htold⟩
          have hmoved := htold.mono (returnsIn [a])
          rw [← hreturns] at hmoved
          exact Or.inr ⟨hmove.plain.1, _, hset _,
            iff_of_true (Or.inl (hadmitted.mpr hp)) hq, hmoved⟩
      | @ending now o hend ht heffects =>
          subst ht heffects
          have hsilent : publishedIn (now ++ [.finished call o]) = publishedIn now :=
            (publishedIn_append now [.finished call o]).trans (List.append_nil _)
          have hsame : u.admittedNow a (now ++ [.finished call o]) = u.admittedNow a now := rfl
          rw [hsilent, hsame]
          refine Or.inr ⟨hend.plain.1, _, hset _, ?_⟩
          rcases hend.tells hrun hu hname htells with
            ⟨hp, hconcluded⟩ | ⟨hp, hnone, htold, hrefused⟩
          · exact Or.inl ⟨Or.inl (hadmitted.mpr hp), hconcluded⟩
          · -- A start that is refused here was not accepted before.
            refine Or.inr ⟨?_, htold, hrefused⟩
            rintro (hadm | hmem)
            · rw [hadmitted.mp hadm] at hp
              cases hp
            · rw [hnone] at hmem
              cases hmem

/-- What a start has told is what its phase says. -/
theorem starting_of_run (hbefore : (System.initial settings).run before = some (s, shown))
    (hphase : s.startPhase? call = some .entering) (hrun : s.run actions = some (u, effects))
    (hname : ∀ panic, .nameForStart call (.error panic) ∉ actions) :
    ∃ c, u.calls[call]? = some c ∧ c.Starts settings before s call actions
      (call ∈ s.admissions actions) (s.toldBy call actions) := by
  -- The induction is on the run. Carried along is how far the start has come by what it was
  -- accepted and told, for the actions so far.
  refine run_induction (fun actions u => ∃ c, u.calls[call]? = some c ∧
    c.Starts settings before s call actions (call ∈ s.admissions actions) (s.toldBy call actions))
      ⟨_, startPhase?_eq_some.mp hphase, ?_, rfl⟩ ?_ hrun
  · exact iff_of_false List.not_mem_nil Bool.false_ne_true
  rintro front u now a v last hpre hfront ⟨c, hc, hstarts⟩ hact
  have hwhole : (System.initial settings).run (before ++ front) = some (u, shown ++ now) :=
    run_append_eq_some.mpr ⟨s, shown, now, hbefore, hfront, rfl⟩
  have hnever : ∀ panic, a ≠ .nameForStart call (.error panic) := by
    rintro panic rfl
    exact hname panic (hpre.subset (List.mem_append_right _ (List.mem_singleton.mpr rfl)))
  have hadmissions : s.admissions (front ++ [a]) = s.admissions front ++ u.admittedNow a last :=
    observe_append_singleton _ hfront hact
  rw [hadmissions, List.mem_append]
  rcases Step.starts hfront (observed_of_run hwhole) (Reachable.initial.run hwhole).gated hact
    hnever hc hstarts with ⟨hother, hstays, hstarts'⟩ | ⟨hown, c', hc', hstarts'⟩
  · -- Whoever is accepted in this step is another one.
    rw [toldBy, follow_other _ hfront hact hother,
      or_iff_left fun hmem => hother (mem_admittedNow hmem)]
    exact ⟨c, hstays, hstarts'⟩
  · rw [toldBy, follow_own _ hfront hact hown]
    exact ⟨c', hc', hstarts'⟩

/-- Only a signal and a failed server end a start that waits. -/
theorem Step.waits (hg : s.Gated) (h : Step s a t effects) {name : String} {exited : Bool}
    (hp : s.startPhase? call = some (.waiting name exited)) (hheed : a ≠ .heed call)
    (hjoin : a = .joinServer call →
      ∀ number result, s.serverTask = .ended number result → result = .ok (.ok ())) :
    ∃ exited', t.startPhase? call = some (.waiting name exited') := by
  have hlt := (List.getElem?_eq_some_iff.mp (startPhase?_eq_some.mp hp)).1
  cases h.startView hg hp with
  | beside _ hphase => exact ⟨exited, hphase⟩
  | admitted hentering _ _ _ _ => cases hentering
  | launched hannounced _ _ _ => cases hannounced
  | move hmove ht =>
      cases hmove with
      | exited _ =>
          refine ⟨true, ?_⟩
          rw [startPhase?_eq_some, ht]
          exact List.getElem?_set_self hlt
  | ending hend _ _ =>
      cases hend with
      | heeded _ => exact absurd rfl hheed
      | failed htask hcause =>
          -- Who returned without an error leaves none behind.
          rw [hjoin rfl _ _ htask] at hcause
          cases hcause

/-- A start can be brought to a good end by its own steps, if the server tells this
    name when it is asked. -/
def Heeds (s : System ι) (call : Nat) (name : String) : Prop :=
  ∃ more t effects, (∀ a ∈ more, a.call? = some call ∧
      ∀ answer, a = .nameForStart call answer → answer = .ok name) ∧
    s.run more = some (t, effects) ∧ t.calls[call]? = some (.ended .done)

theorem Heeds.of_act {name : String} (h : t.Heeds call name)
    (hact : s.act a = some (t, effects)) (hcall : a.call? = some call)
    (hanswer : ∀ answer, a = .nameForStart call answer → answer = .ok name) :
    s.Heeds call name := by
  rcases h with ⟨more, u, later, hmore, hrun, hended⟩
  exact ⟨a :: more, u, effects ++ later, List.forall_mem_cons.mpr ⟨⟨hcall, hanswer⟩, hmore⟩,
    run_cons_eq_some.mpr ⟨t, effects, later, hact, hrun, rfl⟩, hended⟩

theorem startPhase?_setStart (hp : s.startPhase? call = some p) (q : StartPhase ι) :
    (s.setStart call q).startPhase? call = some q := by
  rw [startPhase?_eq_some] at hp ⊢
  exact List.getElem?_set_self (List.getElem?_eq_some_iff.mp hp).1

section Heeds

variable {signal : Signal} {told : String} {server : ι}

-- The steps that are left to a start, from the last one on.

theorem heeds_of_waiting {exited : Bool} (hp : s.startPhase? call = some (.waiting told exited))
    (hfirst : s.settings.signals.first? s.heard = some signal) (name : String) :
    s.Heeds call name := by
  have hact : s.act (.heed call) = some (s.setCall call (.ended .done),
      [.published (heededNotice signal), .finished call .done]) := by
    simp only [act, System.heed, hp, hfirst]
    rfl
  have hquiet : ∀ answer, .heed call = (.nameForStart call answer : Action ι) →
      answer = .ok name := by
    intro answer heq
    cases heq
  refine ⟨[.heed call], _, _, List.forall_mem_singleton.mpr ⟨rfl, hquiet⟩,
    (run_singleton s _).trans hact, ?_⟩
  exact List.getElem?_set_self (List.getElem?_eq_some_iff.mp (startPhase?_eq_some.mp hp)).1

theorem heeds_of_announced (hp : s.startPhase? call = some (.announced server told))
    (hfirst : s.settings.signals.first? s.heard = some signal) (name : String) :
    s.Heeds call name := by
  let launched : System ι :=
    { s with serverTask := .spawned s.taskCount server, taskCount := s.taskCount + 1 }
  have hact : s.act (.launch call) =
      some (launched.setStart call (.waiting told false), [.spawned .server]) := by
    simp only [act, System.launch, hp, launched]
  have hlaunched : launched.startPhase? call = some (.announced server told) := hp
  have hwaits : (launched.setStart call (.waiting told false)).Heeds call name :=
    heeds_of_waiting (startPhase?_setStart hlaunched _) hfirst name
  refine hwaits.of_act hact rfl fun answer heq => ?_
  cases heq

theorem heeds_of_named (hp : s.startPhase? call = some (.named server told))
    (hfirst : s.settings.signals.first? s.heard = some signal) (name : String) :
    s.Heeds call name := by
  have hact : s.act (.announceStart call) = some (s.setStart call (.announced server told),
      [.published { kind := .serviceStarting, integration := some told }]) := by
    simp only [act, System.announceStart, hp]
  have hannounced : (s.setStart call (.announced server told)).Heeds call name :=
    heeds_of_announced (startPhase?_setStart hp _) hfirst name
  refine hannounced.of_act hact rfl fun answer heq => ?_
  cases heq

/-- An accepted start can end when a signal has arrived, wherever it is on its
    way. -/
theorem heeds_of_accepted (hp : s.startPhase? call = some p) (haccepted : p.isAccepted = true)
    (hfirst : s.settings.signals.first? s.heard = some signal) (name : String) :
    s.Heeds call name := by
  cases p with
  | entering => cases haccepted
  | waiting told exited => exact heeds_of_waiting hp hfirst name
  | announced server told => exact heeds_of_announced hp hfirst name
  | named server told => exact heeds_of_named hp hfirst name
  | admitted server =>
      have hact : s.act (.nameForStart call (.ok name)) =
          some (s.setStart call (.named server name), []) := by
        simp only [act, System.nameForStart, hp]
      have hnamed : (s.setStart call (.named server name)).Heeds call name :=
        heeds_of_named (startPhase?_setStart hp _) hfirst name
      refine hnamed.of_act hact rfl fun answer heq => ?_
      cases heq
      rfl

end Heeds

/-- A start that waits can end when the server has failed. -/
theorem exists_act_failed {name : String} {number : Nat} {result : Return} {cause : Cause}
    (hp : s.startPhase? call = some (.waiting name false))
    (htask : s.serverTask = .ended number result)
    (hcause : ServerTask.leftBehind number result = .error cause) :
    ∃ t effects, s.act (.joinServer call) = some (t, effects) ∧
      t.calls[call]? = some (.ended (.failed (startFailure.addCause cause))) := by
  have hact : s.act (.joinServer call) =
      some (s.setCall call (.ended (.failed (startFailure.addCause cause))),
        [.published (failedNotice name cause),
          .finished call (.failed (startFailure.addCause cause))]) := by
    simp only [act, System.joinServer, hp, htask, hcause]
    rfl
  exact ⟨_, _, hact,
    List.getElem?_set_self (List.getElem?_eq_some_iff.mp (startPhase?_eq_some.mp hp)).1⟩

/-- What is so of a start that was accepted. It was under way in `s`, where `before`
    has led to, and `actions` lead from there to `u`. -/
structure Runs (settings : Settings) (before : List (Action ι)) (s : System ι) (call : Nat)
    (actions : List (Action ι)) (u : System ι) (told : List Notice) : Prop where
  /-- It is on its way, or has ended in one of the two ways. -/
  course : (∃ p, p.isAccepted = true ∧ u.startPhase? call = some p ∧
      p.Tells (returnsIn (before ++ actions)) told) ∨
    ∃ o, u.calls[call]? = some (.ended o) ∧ Concluded settings before s call actions told o
  done_iff : u.calls[call]? = some (.ended .done) ↔ ∃ n ∈ told, n.kind = .shutdownRequested
  failed_iff : (∃ failure, u.calls[call]? = some (.ended (.failed failure))) ↔
    ∃ n ∈ told, n.kind = .serverFailed
  /-- The failure has one cause, and it is the one that was told. -/
  cause : ∀ failure, u.calls[call]? = some (.ended (.failed failure)) →
    failure.findingList = [] ∧ ∃ name cause, failure.causes = [cause] ∧
      failedNotice name cause ∈ told
  exited_once : (told.filter fun n => n.kind = .serverExited).length ≤ 1
  /-- Only a signal and a failed server end it when it waits. -/
  waits : ∀ name exited a t now, u.startPhase? call = some (.waiting name exited) →
    u.act a = some (t, now) → a ≠ .heed call →
    (a = .joinServer call →
      ∀ number result, u.serverTask = .ended number result → result = .ok (.ok ())) →
    ∃ exited', t.startPhase? call = some (.waiting name exited')
  /-- And each of the two can, once it is there. -/
  heeds : ∀ p name, u.startPhase? call = some p →
    (System.initial settings).arrivals (before ++ actions) ≠ [] → u.Heeds call name
  fails : ∀ name number result cause, u.startPhase? call = some (.waiting name false) →
    u.serverTask = .ended number result →
    ServerTask.leftBehind number result = .error cause →
    ∃ t now, u.act (.joinServer call) = some (t, now) ∧
      t.calls[call]? = some (.ended (.failed (startFailure.addCause cause)))

section Ends

/-- A start on its way has told of no end. -/
theorem unended_of_tells {returns : List Return} (h : p.Tells returns told) {n : Notice}
    (hmem : n ∈ told) : n.kind = .serviceStarting ∨ n.kind = .serverExited := by
  rcases h.eq with rfl | ⟨name, exited, rfl⟩
  · cases hmem
  · exact mem_launchNotices hmem

/-- Which end a start has come to is told last, and nowhere else. -/
theorem exists_kind_append {name : String} {exited : Bool} {last : Notice} (kind : EventKind)
    (hstarting : kind ≠ .serviceStarting) (hexited : kind ≠ .serverExited) :
    (∃ n ∈ launchNotices name exited ++ [last], n.kind = kind) ↔ last.kind = kind := by
  constructor
  · rintro ⟨n, hmem, rfl⟩
    rcases List.mem_append.mp hmem with hmem | hmem
    · exact absurd (mem_launchNotices hmem) (not_or.mpr ⟨hstarting, hexited⟩)
    · rw [List.mem_singleton.mp hmem]
  · exact fun h => ⟨last, List.mem_append_right _ (List.mem_singleton.mpr rfl), h⟩

theorem exited_once_append {name : String} {exited : Bool} {last : Notice}
    (hlast : last.kind ≠ .serverExited) :
    ((launchNotices name exited ++ [last]).filter fun n => n.kind = .serverExited).length ≤ 1 := by
  rw [List.filter_append, List.filter_singleton, decide_eq_false hlast, cond_false,
    List.append_nil]
  exact exited_launchNotices name exited

theorem Concluded.done_iff (h : Concluded settings before s call actions told o) :
    o = .done ↔ ∃ n ∈ told, n.kind = .shutdownRequested := by
  cases h with
  | heeded _ _ _ _ htold =>
      rw [htold, exists_kind_append .shutdownRequested nofun nofun]
      exact iff_of_true rfl rfl
  | failed _ _ _ _ _ htold =>
      rw [htold, exists_kind_append .shutdownRequested nofun nofun]
      exact iff_of_false nofun nofun

theorem Concluded.failed_iff (h : Concluded settings before s call actions told o) :
    (∃ failure, o = .failed failure) ↔ ∃ n ∈ told, n.kind = .serverFailed := by
  cases h with
  | heeded _ _ _ _ htold =>
      rw [htold, exists_kind_append .serverFailed nofun nofun]
      exact iff_of_false nofun nofun
  | failed _ _ _ _ _ htold =>
      rw [htold, exists_kind_append .serverFailed nofun nofun]
      exact iff_of_true ⟨_, rfl⟩ rfl

theorem Concluded.cause (h : Concluded settings before s call actions told o) {failure : Failure}
    (ho : o = .failed failure) : failure.findingList = [] ∧ ∃ name cause,
      failure.causes = [cause] ∧ failedNotice name cause ∈ told := by
  cases h with
  | heeded _ _ _ _ _ => cases ho
  | @failed _ _ _ _ name _ _ cause _ _ _ _ _ htold =>
      cases ho
      refine ⟨rfl, name, cause, rfl, ?_⟩
      rw [htold]
      exact List.mem_append_right _ (List.mem_singleton.mpr rfl)

theorem Concluded.exited_once (h : Concluded settings before s call actions told o) :
    (told.filter fun n => n.kind = .serverExited).length ≤ 1 := by
  cases h with
  | heeded _ _ _ _ htold | failed _ _ _ _ _ htold =>
      rw [htold]
      exact exited_once_append nofun

end Ends

/-- A start that was accepted, by where it stands. -/
theorem runs_of_starts {c : Call ι} (hu : Observed settings (before ++ actions) u)
    (hg : u.Gated) (hc : u.calls[call]? = some c) {admitted : Prop} (hadmitted : admitted)
    (hstarts : c.Starts settings before s call actions admitted told) :
    Runs settings before s call actions u told := by
  -- What the service can do next is a matter of the state it is in, whichever way the start went.
  have hwaits : ∀ name exited a t now, u.startPhase? call = some (.waiting name exited) →
      u.act a = some (t, now) → a ≠ .heed call → (a = .joinServer call →
        ∀ number result, u.serverTask = .ended number result → result = .ok (.ok ())) →
      ∃ exited', t.startPhase? call = some (.waiting name exited') :=
    fun name exited a t now hp hact => (step_of_act hact).waits hg hp
  have hfails : ∀ name number result cause, u.startPhase? call = some (.waiting name false) →
      u.serverTask = .ended number result → ServerTask.leftBehind number result = .error cause →
      ∃ t now, u.act (.joinServer call) = some (t, now) ∧
        t.calls[call]? = some (.ended (.failed (startFailure.addCause cause))) :=
    fun name number result cause => exists_act_failed
  cases c with
  | registering _ | stopping _ | checking _ => cases hstarts
  | starting p =>
      -- While it runs nothing was told but that it starts and, at most
      -- once, that the server exited.
      rcases hstarts with ⟨haccepted, htells⟩
      have hp := startPhase?_eq_some.mpr hc
      have hnone : ∀ kind : EventKind, kind ≠ .serviceStarting → kind ≠ .serverExited →
          ¬ ∃ n ∈ told, n.kind = kind := by
        rintro kind hstarting hexited ⟨n, hmem, rfl⟩
        exact (unended_of_tells htells hmem).elim hstarting hexited
      -- It has not ended, and the events that go with an end are not among those told.
      refine ⟨Or.inl ⟨p, haccepted.mp hadmitted, hp, htells⟩, ?_, ?_, ?_, ?_, hwaits, ?_, hfails⟩
      · rw [hc]
        exact iff_of_false nofun (hnone _ nofun nofun)
      · rw [hc]
        exact iff_of_false nofun (hnone _ nofun nofun)
      · rw [hc]
        exact fun failure => nofun
      · rcases htells.eq with rfl | ⟨name, exited, rfl⟩
        · exact Nat.zero_le 1
        · exact exited_launchNotices name exited
      · -- A signal that has arrived is in the settings, so one of them is the first.
        intro q name hq harrived
        rw [← hu.heard_eq] at harrived
        rcases Option.isSome_iff_exists.mp (Signals.isSome_first? hu.listed harrived) with
          ⟨signal, hfirst⟩
        rw [← hu.settings_eq] at hfirst
        exact heeds_of_accepted hp (haccepted.mp hadmitted) hfirst name
  | ended o =>
      -- Once it has ended, being accepted leaves only the one way to have ended,
      -- with all of the events told.
      have hconcluded : Concluded settings before s call actions told o := by
        rcases hstarts with ⟨-, hconcluded⟩ | ⟨hrefused, -⟩
        · exact hconcluded
        · exact absurd hadmitted hrefused
      have hended : ∀ o', u.calls[call]? = some (.ended o') ↔ o = o' := by
        intro o'
        rw [hc, Option.some.injEq, Call.ended.injEq]
      refine ⟨Or.inr ⟨o, hc, hconcluded⟩, ?_, ?_, ?_, hconcluded.exited_once, hwaits, ?_, hfails⟩
      · rw [hended]
        exact hconcluded.done_iff
      · simp only [hended]
        exact hconcluded.failed_iff
      · intro failure hfailure
        exact hconcluded.cause ((hended _).mp hfailure)
      · intro p name hp
        rw [startPhase?_eq_some, hc] at hp
        cases hp

/-- A service starts once. Of all the starts one is accepted at most, and the server
    is asked to start at most once. The start that was accepted ends well if and only
    if it tells of a signal, and fails if and only if it tells of a failed server;
    nothing else ends it. A call that has ended tells nothing any more. -/
theorem start_reports (hbefore : (System.initial settings).run before = some (s, shown))
    (hphase : s.startPhase? call = some .entering) (hrun : s.run actions = some (u, effects))
    (hname : ∀ panic, .nameForStart call (.error panic) ∉ actions) :
    ((System.initial settings).admissions (before ++ actions)).length ≤ 1 ∧
    ((System.initial settings).invocations (before ++ actions)).length ≤ 1 ∧
    (call ∈ s.admissions actions →
      Runs settings before s call actions u (s.toldBy call actions)) ∧
    (call ∉ s.admissions actions → s.toldBy call actions = [] ∧
      (u.startPhase? call = some .entering ∨
        ∃ refusal : StartRefusal, u.calls[call]? = some (.ended (.failed refusal.failure)))) ∧
    ∀ o more v later, u.calls[call]? = some (.ended o) → u.run more = some (v, later) →
      u.toldBy call more = [] ∧ v.calls[call]? = some (.ended o) := by
  have hwhole : (System.initial settings).run (before ++ actions) = some (u, shown ++ effects) :=
    run_append_eq_some.mpr ⟨s, shown, effects, hbefore, hrun, rfl⟩
  have hu : Observed settings (before ++ actions) u := observed_of_run hwhole
  have hreach : Reachable settings u := Reachable.initial.run hwhole
  rcases starting_of_run hbefore hphase hrun hname with ⟨c, hc, hstarts⟩
  refine ⟨?_, hu.ran.length_le, fun hadmitted => ?_, fun hadmitted => ?_, ?_⟩
  · -- Over the whole run the acceptances are counted by the one mark in the roster.
    rw [hu.admitted]
    exact Bool.toNat_le _
  · exact runs_of_starts hu hreach.gated hc hadmitted hstarts
  · -- It was never accepted: it has not come to that yet, or it was refused.
    cases c with
    | registering _ | stopping _ | checking _ => cases hstarts
    | starting p =>
        rcases hstarts with ⟨haccepted, htells⟩
        cases p with
        | entering => exact ⟨htells, Or.inl (startPhase?_eq_some.mpr hc)⟩
        | admitted _ | named _ _ | announced _ _ | waiting _ _ =>
            exact absurd (haccepted.mpr rfl) hadmitted
    | ended o =>
        rcases hstarts with ⟨haccepted, -⟩ | ⟨-, htold, refusal, rfl⟩
        · exact absurd haccepted hadmitted
        · exact ⟨htold, Or.inr ⟨refusal, hc⟩⟩
  · intro o more v later hended hmore
    exact toldBy_of_ended hreach hended hmore

/-- Two starts arrive and one of them is refused. The server returns without an error
    and a stop begins, and the start waits on. Two signals arrive, and the one that
    stands first in the settings ends it. -/
theorem start_reports_exit_and_signals :
    let before : List (Action Nat) := [.serve (fun _ _ => .ok "api") (some 0), .begin .start,
      .begin .start]
    let actions : List (Action Nat) := [.enterStart 1 (.ok ()), .enterStart 2 (.ok ()),
      .nameForStart 1 (.ok "api"), .announceStart 1, .launch 1, .runServer, .begin .stop,
      .endServer (.ok (.ok ())), .joinServer 1, .approach 3, .hear .terminate, .hear .interrupt,
      .heed 1]
    ∃ s u shown effects, (System.initial Settings.standard).run before = some (s, shown) ∧
      s.startPhase? 1 = some .entering ∧ s.run actions = some (u, effects) ∧
      (∀ panic, .nameForStart 1 (.error panic) ∉ actions) ∧ 1 ∈ s.admissions actions ∧
      s.toldBy 1 actions = launchNotices "api" true ++ [heededNotice .interrupt] ∧
      Runs Settings.standard before s 1 actions u (s.toldBy 1 actions) := by
  intro before actions
  have hbefore : (System.initial Settings.standard).run before = some (_, _) := rfl
  have hname : ∀ panic, .nameForStart 1 (.error panic) ∉ actions := by
    intro panic hmem
    simp only [actions, List.mem_cons, reduceCtorEq, Action.nameForStart.injEq, and_false, false_or,
      List.not_mem_nil] at hmem
  have hreports := start_reports hbefore (show System.startPhase? _ 1 = some .entering from rfl)
    (show System.run _ actions = some (_, _) from rfl) hname
  have hruns := hreports.2.2.1 (List.mem_singleton.mpr rfl)
  exact ⟨_, _, _, _, hbefore, rfl, rfl, hname, List.mem_singleton.mpr rfl, rfl, hruns⟩

end System

end Steward
