import Steward.Proofs.Snapshot

/-!
# The Roster Along a Run

Who is on the roster of a service, told by the registrations that were accepted.

Registrations, starts and stops overlap, and each of them touches the roster in
steps that nothing comes between. Four actions do so; `Roster.after` says what
each of them makes of a roster, and `Step.roster_eq` that this is all that
happens to it. A registration is accepted or it is not, and `served` and
`attached` observe the ones that are, along with the answer that the participant
gave to the question whether it has a name.

What is on the roster can then be read off the observations: the dependencies
are those that were attached, each as often as it was and in that order, and the
server is the first that was served, which is the only one. A service that is
initialized has a server and takes no more registrations, and one that is
stopped was initialized before. The last of these is where the stops come in. A
stop marks the roster long after it has looked at it, and only because of what
it holds on to meanwhile is the mark still right.

## Main definitions

* `Roster.after`: A roster after an action.
* `Registration.entry`: Who is registered, and what it answered.
* `System.served`, `System.attached`: The registrations that a step accepts.
* `Roster.LeadsTo`: What a roster keeps for good.
* `System.Enrolled`: A roster told by the registrations.

## Theorems

* `Roster.serve_cases`, `Roster.attach_cases`: A registration changes nothing or
  adds one participant with a name.
* `Step.roster_eq`: What a step makes of the roster.
* `Step.leadsTo`: Every step keeps what a roster keeps for good.
* `roster_of_run`: A roster told by the run that has led to it.
-/

namespace Steward

variable {ι : Type}

/-- A roster after an action that was possible. -/
def Roster.after (r : Roster ι) (signals : Signals) : Action ι → Roster ι
  | .serve ask offered => (r.serve ask offered).2
  | .attach ask offered => (r.attach ask offered).2
  | .enterStart _ listening =>
    match r.admitStart signals listening with
    | .ok (_, accepted) => accepted
    | .error _ => r
  | .markStopped _ => r.markStopped
  | _ => r

/-- The participant that a registration puts on the roster, with its answer when
    it was asked for the first time for its name. -/
def Registration.entry (outcome : Registration) (ask : Answers ι) (offered : Option ι) :
    List (ι × Attempt String) :=
  match outcome, offered with
  | .accepted _, some who => [(who, ask 0 who)]
  | _, _ => []

/-- The server that a step registers. -/
def System.served (s : System ι) (a : Action ι) (_ : List (Effect ι)) :
    List (ι × Attempt String) :=
  match a with
  | .serve ask offered => (s.roster.serve ask offered).1.entry ask offered
  | _ => []

/-- The dependency that a step attaches. -/
def System.attached (s : System ι) (a : Action ι) (_ : List (Effect ι)) :
    List (ι × Attempt String) :=
  match a with
  | .attach ask offered => (s.roster.attach ask offered).1.entry ask offered
  | _ => []

/-- What a roster keeps for good, from one moment to a later one. -/
structure Roster.LeadsTo (r r' : Roster ι) : Prop where
  initialized : r.initialized = true → r'.initialized = true
  stopped : r.stopped = true → r'.stopped = true
  /-- A server is never replaced. -/
  server : ∀ who, r.server = some who → r'.server = some who
  /-- From the start on nobody comes or goes. -/
  frozen : r.initialized = true → r'.server = r.server ∧ r'.dependencies = r.dependencies

namespace Roster

theorem LeadsTo.refl (r : Roster ι) : r.LeadsTo r :=
  ⟨id, id, fun _ => id, fun _ => ⟨rfl, rfl⟩⟩

theorem LeadsTo.trans {r r' r'' : Roster ι} (h : r.LeadsTo r') (h' : r'.LeadsTo r'') :
    r.LeadsTo r'' := by
  refine ⟨fun hr => h'.initialized (h.initialized hr), fun hr => h'.stopped (h.stopped hr),
    fun who hr => h'.server who (h.server who hr), fun hr => ?_⟩
  rcases h.frozen hr with ⟨hserver, hdeps⟩
  rcases h'.frozen (h.initialized hr) with ⟨hserver', hdeps'⟩
  exact ⟨hserver'.trans hserver, hdeps'.trans hdeps⟩

theorem of_serve_accepted {r : Roster ι} {ask : Answers ι} {offered : Option ι} {announced : String}
    (h : (r.serve ask offered).1 = .accepted announced) :
    ∃ who name, offered = some who ∧ ask 0 who = .ok name ∧ name ≠ "" ∧
      r.initialized = false ∧ r.server = none ∧
      (r.serve ask offered).2 = { r with server := some who } := by
  simp only [serve] at h ⊢
  -- One reason for a refusal after the other does not apply.
  by_cases hinit : r.initialized = true
  · rw [if_pos hinit] at h
    cases h
  rw [if_neg hinit] at h ⊢
  by_cases hstopped : r.stopped = true
  · rw [if_pos hstopped] at h
    cases h
  rw [if_neg hstopped] at h ⊢
  rcases offered with _ | who
  · cases h
  cases hname : ask 0 who with
  | error p =>
      simp only [hname] at h
      cases h
  | ok name =>
      simp only [hname] at h ⊢
      by_cases hempty : name.isEmpty = true
      · rw [if_pos hempty] at h
        cases h
      rw [if_neg hempty] at h ⊢
      have hne : name ≠ "" := by
        rintro rfl
        exact hempty rfl
      cases hserver : r.server with
      | some current =>
          -- There is a server already, whatever it is called.
          simp only [hserver] at h
          cases htaken : ask 1 current <;> simp only [htaken] at h <;> cases h
      | none =>
          simp only [hserver] at h ⊢
          cases hagain : ask 1 who with
          | error p =>
              simp only [hagain] at h
              cases h
          | ok again => exact ⟨who, name, rfl, hname, hne, Bool.eq_false_iff.mpr hinit, trivial, rfl⟩

theorem of_attach_accepted {r : Roster ι} {ask : Answers ι} {offered : Option ι}
    {announced : String} (h : (r.attach ask offered).1 = .accepted announced) :
    ∃ who name, offered = some who ∧ ask 0 who = .ok name ∧ name ≠ "" ∧
      r.initialized = false ∧
      (r.attach ask offered).2 = { r with dependencies := r.dependencies ++ [who] } := by
  simp only [attach] at h ⊢
  -- As for a server, but that there is another one is no reason.
  by_cases hinit : r.initialized = true
  · rw [if_pos hinit] at h
    cases h
  rw [if_neg hinit] at h ⊢
  by_cases hstopped : r.stopped = true
  · rw [if_pos hstopped] at h
    cases h
  rw [if_neg hstopped] at h ⊢
  rcases offered with _ | who
  · cases h
  cases hname : ask 0 who with
  | error p =>
      simp only [hname] at h
      cases h
  | ok name =>
      simp only [hname] at h ⊢
      by_cases hempty : name.isEmpty = true
      · rw [if_pos hempty] at h
        cases h
      rw [if_neg hempty] at h ⊢
      have hne : name ≠ "" := by
        rintro rfl
        exact hempty rfl
      -- The name is asked for a second time for the announcement, and that is the answer announced.
      cases hagain : ask 1 who with
      | error p =>
          simp only [hagain] at h
          cases h
      | ok again => exact ⟨who, name, rfl, hname, hne, Bool.eq_false_iff.mpr hinit, rfl⟩

/-- A server that is offered changes nothing, or it has a name and there was none
    before it. -/
theorem serve_cases (r : Roster ι) (ask : Answers ι) (offered : Option ι) :
    ((r.serve ask offered).1.entry ask offered = [] ∧ (r.serve ask offered).2 = r) ∨
    ∃ who name, (r.serve ask offered).1.entry ask offered = [(who, .ok name)] ∧ name ≠ "" ∧
      r.initialized = false ∧ r.server = none ∧
      (r.serve ask offered).2 = { r with server := some who } := by
  cases hout : (r.serve ask offered).1 with
  | accepted announced =>
      rcases of_serve_accepted hout with ⟨who, name, rfl, hname, hne, hinit, hserver, hafter⟩
      refine Or.inr ⟨who, name, ?_, hne, hinit, hserver, hafter⟩
      simp only [Registration.entry, hname]
  | _ =>
      refine Or.inl ⟨rfl, serve_of_not_accepted fun announced h => ?_⟩
      rw [hout] at h
      cases h

/-- A dependency that is offered changes nothing, or it has a name and comes
    behind the others. -/
theorem attach_cases (r : Roster ι) (ask : Answers ι) (offered : Option ι) :
    ((r.attach ask offered).1.entry ask offered = [] ∧ (r.attach ask offered).2 = r) ∨
    ∃ who name, (r.attach ask offered).1.entry ask offered = [(who, .ok name)] ∧ name ≠ "" ∧
      r.initialized = false ∧
      (r.attach ask offered).2 = { r with dependencies := r.dependencies ++ [who] } := by
  cases hout : (r.attach ask offered).1 with
  | accepted announced =>
      rcases of_attach_accepted hout with ⟨who, name, rfl, hname, hne, hinit, hafter⟩
      refine Or.inr ⟨who, name, ?_, hne, hinit, hafter⟩
      simp only [Registration.entry, hname]
  | _ =>
      refine Or.inl ⟨rfl, attach_of_not_accepted fun announced h => ?_⟩
      rw [hout] at h
      cases h

/-- A start that is accepted finds a server and leaves the service initialized. -/
theorem of_admitStart {r accepted : Roster ι} {signals : Signals} {listening : Except String Unit}
    {server : ι} (h : r.admitStart signals listening = .ok (server, accepted)) :
    r.initialized = false ∧ r.server = some server ∧ accepted = { r with initialized := true } := by
  unfold admitStart at h
  -- The refusals in the order in which they are looked for; past all of them
  -- the mark is all that is left.
  by_cases hinit : r.initialized = true
  · rw [if_pos hinit] at h
    cases h
  rw [if_neg hinit] at h
  by_cases hstopped : r.stopped = true
  · rw [if_pos hstopped] at h
    cases h
  rw [if_neg hstopped] at h
  cases hserver : r.server with
  | none =>
      rw [hserver] at h
      cases h
  | some current =>
      rw [hserver] at h
      dsimp only at h
      by_cases hsignals : signals.isEmpty = true
      · rw [if_pos hsignals] at h
        cases h
      rw [if_neg hsignals] at h
      cases listening with
      | error e => cases h
      | ok _ =>
          rcases Prod.mk.inj (Except.ok.inj h) with ⟨rfl, rfl⟩
          exact ⟨Bool.eq_false_iff.mpr hinit, rfl, rfl⟩

/-- No action takes anything from a roster that it keeps for good. -/
theorem leadsTo_after (r : Roster ι) (signals : Signals) (a : Action ι) :
    r.LeadsTo (r.after signals a) := by
  cases a with
  | serve ask offered =>
      -- Only a registration changes the participants, and it is accepted only before there is a
      -- server, or at least before the start, so nothing that was promised is broken.
      rcases r.serve_cases ask offered with ⟨-, hafter⟩ | ⟨who, name, -, -, hinit, hserver, hafter⟩
      · rw [after, hafter]
        exact .refl r
      · rw [after, hafter]
        refine ⟨id, id, fun who hr => ?_, fun hr => ?_⟩
        · rw [hserver] at hr
          cases hr
        · rw [hinit] at hr
          cases hr
  | attach ask offered =>
      rcases r.attach_cases ask offered with ⟨-, hafter⟩ | ⟨who, name, -, -, hinit, hafter⟩
      · rw [after, hafter]
        exact .refl r
      · rw [after, hafter]
        refine ⟨id, id, fun who => id, fun hr => ?_⟩
        rw [hinit] at hr
        cases hr
  | enterStart call listening =>
      cases haccept : r.admitStart signals listening with
      | error refusal =>
          simp only [after, haccept]
          exact .refl r
      | ok accepted =>
          rcases of_admitStart haccept with ⟨-, -, hafter⟩
          -- A start leaves a mark, and the participants as they are.
          simp only [after, haccept]
          rw [hafter]
          exact ⟨fun _ => rfl, id, fun who => id, fun _ => ⟨rfl, rfl⟩⟩
  | markStopped call => exact ⟨id, fun _ => rfl, fun who => id, fun _ => ⟨rfl, rfl⟩⟩
  | _ => exact .refl r

end Roster

namespace System

variable {s t : System ι} {effects : List (Effect ι)} {a : Action ι}

theorem roster_register (s : System ι) (kind : EventKind) (outcome : Registration × Roster ι) :
    (s.register kind outcome).1.roster = outcome.2 := by
  rcases outcome with ⟨outcome, roster⟩
  cases outcome <;> rfl

/-- What a step makes of the roster is a matter of the action alone. -/
theorem Step.roster_eq (h : Step s a t effects) :
    t.roster = s.roster.after s.settings.signals a := by
  cases h with
  | elsewhere h =>
      -- Outside the stops a registration and an accepted start change the roster.
      cases h with
      | serve | attach => exact roster_register _ _ _
      | startAdmitted _ haccept => simp only [Roster.after, haccept]; rfl
      | startMoved _ hmove => cases hmove <;> rfl
      | startEnded _ hend =>
          cases hend with
          | refused hrefused => simp only [Roster.after, hrefused]; rfl
          | nameless | heeded _ | failed _ _ => rfl
      | statusMoved _ hmove => cases hmove <;> rfl
      | statusEnded _ hend => cases hend; rfl
      | _ => rfl
  | approached => rfl
  -- Of the moves of a stop it is the mark, and the end of a stop leaves the roster alone.
  | stopMoved _ hmove => cases hmove <;> rfl
  | stopEnded _ hend =>
      rw [roster_finishStop]
      cases hend <;> rfl

theorem Step.leadsTo (h : Step s a t effects) : s.roster.LeadsTo t.roster := by
  rw [h.roster_eq]
  exact s.roster.leadsTo_after s.settings.signals a

/-- A roster told by the registrations that were accepted so far. -/
structure Enrolled (served attached : List (ι × Attempt String)) (r : Roster ι) : Prop where
  /-- The first server that was served is there, and no other was. -/
  server : r.server = served.head?.map Prod.fst
  single : served.length ≤ 1
  dependencies : r.dependencies = attached.map Prod.fst
  named : ∀ e ∈ served ++ attached, ∃ name, e.2 = .ok name ∧ name ≠ ""
  initialized_of_stopped : r.stopped = true → r.initialized = true
  server_of_initialized : r.initialized = true → r.server.isSome = true

/-- Only a stop that nothing has failed marks the service. -/
theorem Step.succeeded {call : Nat} (h : Step s (.markStopped call) t effects) :
    s.stopPhase? call = some .succeeded := by
  cases h with
  | elsewhere h =>
      cases h with
      | startMoved _ hmove => cases hmove
      | startEnded _ hend => cases hend
      | statusMoved _ hmove => cases hmove
      | statusEnded _ hend => cases hend
  | stopMoved hp hmove =>
      cases hmove with
      | mark => exact hp
  | stopEnded _ hend => cases hend

namespace Enrolled

variable {served attached : List (ι × Attempt String)}

theorem initial (settings : Settings) :
    Enrolled [] [] (System.initial settings : System ι).roster :=
  ⟨rfl, Nat.zero_le 1, rfl, nofun, nofun, nofun⟩

theorem of_unregistered {r r' : Roster ι} (he : Enrolled served attached r)
    (hserver : r'.server = r.server) (hdeps : r'.dependencies = r.dependencies)
    (hstopped : r'.stopped = true → r'.initialized = true)
    (hinit : r'.initialized = true → r.server.isSome = true) :
    Enrolled (served ++ []) (attached ++ []) r' := by
  rw [List.append_nil, List.append_nil]
  exact ⟨hserver.trans he.server, he.single, hdeps.trans he.dependencies, he.named, hstopped,
    fun hr => by rw [hserver]; exact hinit hr⟩

/-- A step adds to the roster who is registered in it, and keeps what is said of
    the two marks. -/
theorem step (he : Enrolled served attached s.roster) (hs : s.Sound) (h : Step s a t effects) :
    Enrolled (served ++ s.served a effects) (attached ++ s.attached a effects) t.roster := by
  have hsame : Enrolled (served ++ []) (attached ++ []) s.roster :=
    he.of_unregistered rfl rfl he.initialized_of_stopped he.server_of_initialized
  rw [h.roster_eq]
  cases a with
  | serve ask offered =>
      rcases s.roster.serve_cases ask offered with
        ⟨hentry, hafter⟩ | ⟨who, name, hentry, hne, hinit, hserver, hafter⟩
      · simp only [System.served, System.attached, hentry, Roster.after, hafter]
        exact hsame
      · -- There was no server, so none was served before.
        have hnone : served = [] := by
          have hhead := he.server
          rw [hserver] at hhead
          cases served with
          | nil => rfl
          | cons e rest => cases hhead
        simp only [System.served, System.attached, hentry, Roster.after, hafter, hnone,
          List.nil_append, List.append_nil]
        refine ⟨rfl, Nat.le_refl 1, he.dependencies, fun e hmem => ?_,
          he.initialized_of_stopped, fun _ => rfl⟩
        rcases List.mem_cons.mp hmem with rfl | hmem
        · exact ⟨name, rfl, hne⟩
        · exact he.named e (List.mem_append_right _ hmem)
  | attach ask offered =>
      -- The dependency comes last in the roster and last among those attached.
      rcases s.roster.attach_cases ask offered with
        ⟨hentry, hafter⟩ | ⟨who, name, hentry, hne, hinit, hafter⟩
      · simp only [System.served, System.attached, hentry, Roster.after, hafter]
        exact hsame
      · simp only [System.served, System.attached, hentry, Roster.after, hafter, List.append_nil]
        refine ⟨he.server, he.single, ?_, fun e hmem => ?_, he.initialized_of_stopped,
          he.server_of_initialized⟩
        · rw [List.map_append, ← he.dependencies]
          rfl
        · rw [← List.append_assoc] at hmem
          rcases List.mem_append.mp hmem with hmem | hmem
          · exact he.named e hmem
          · rw [List.mem_singleton.mp hmem]
            exact ⟨name, rfl, hne⟩
  | enterStart call listening =>
      cases haccept : s.roster.admitStart s.settings.signals listening with
      | error refusal =>
          simp only [System.served, System.attached, Roster.after, haccept]
          exact hsame
      | ok accepted =>
          rcases Roster.of_admitStart haccept with ⟨-, hserver, hafter⟩
          simp only [System.served, System.attached, Roster.after, haccept]
          -- A start is accepted only when there is a server, and the registry
          -- is closed from here on.
          rw [hafter]
          exact he.of_unregistered rfl rfl (fun _ => rfl) (fun _ => by rw [hserver]; rfl)
  | markStopped call =>
      -- What the stop has seen still holds, so the service is initialized.
      have hopen : s.roster.IsOpen := hs call _ h.succeeded
      exact he.of_unregistered rfl rfl (fun _ => hopen.1) he.server_of_initialized
  | _ => exact hsame

end Enrolled

theorem enrolled_of_run {settings : Settings} {before : List (Action ι)} {s : System ι}
    {shown : List (Effect ι)} (h : (System.initial settings).run before = some (s, shown)) :
    Enrolled ((System.initial settings).observe System.served before)
      ((System.initial settings).observe System.attached before) s.roster := by
  refine run_induction (fun before s => Enrolled
    ((System.initial settings).observe System.served before)
    ((System.initial settings).observe System.attached before) s.roster)
    (.initial settings) ?_ h
  intro before u shown a v now _ hrun hu hact
  rw [observe_append_singleton _ hrun hact, observe_append_singleton _ hrun hact]
  exact hu.step (Reachable.initial.run hrun).sound (step_of_act hact)

theorem leadsTo_of_run {s t : System ι} {actions : List (Action ι)} {effects : List (Effect ι)}
    (h : s.run actions = some (t, effects)) : s.roster.LeadsTo t.roster := by
  refine run_induction (fun _ t => s.roster.LeadsTo t.roster) (.refl _) ?_ h
  intro before u shown a v now _ _ hu hact
  exact hu.trans (step_of_act hact).leadsTo

/-- The roster that a run has led to is told by the registrations that the run
    has accepted, and what it keeps for good it keeps in every run from there. -/
theorem roster_of_run {settings : Settings} {before : List (Action ι)} {s : System ι}
    {shown : List (Effect ι)} (h : (System.initial settings).run before = some (s, shown)) :
    Enrolled ((System.initial settings).observe System.served before)
      ((System.initial settings).observe System.attached before) s.roster ∧
    ∀ after t later, s.run after = some (t, later) → s.roster.LeadsTo t.roster :=
  ⟨enrolled_of_run h, fun _ _ _ hafter => leadsTo_of_run hafter⟩

/-- A dependency that is attached twice is there twice, and the start fixes it. -/
theorem roster_of_run_attached_twice :
    let actions : List (Action Nat) := [.serve (fun _ _ => .ok "api") (some 0),
      .attach (fun _ _ => .ok "db") (some 1), .attach (fun _ _ => .ok "db") (some 1),
      .begin .start, .enterStart 3 (.ok ())]
    ∃ s shown, (System.initial Settings.standard).run actions = some (s, shown) ∧
      s.roster = ⟨true, false, some 0, [1, 1]⟩ ∧
      Enrolled [(0, .ok "api")] [(1, .ok "db"), (1, .ok "db")] s.roster ∧
      ∀ after t later, s.run after = some (t, later) → s.roster.LeadsTo t.roster := by
  intro actions
  have hrun : (System.initial Settings.standard).run actions = some (_, _) := rfl
  have hroster := roster_of_run hrun
  exact ⟨_, _, hrun, rfl, hroster.1, hroster.2⟩

end System

theorem Reachable.server_of_initialized {settings : Settings} {s : System ι}
    (hs : Reachable settings s) (hinit : s.roster.initialized = true) :
    s.roster.server.isSome = true := by
  rcases reachable_iff_run.mp hs with ⟨actions, effects, hrun⟩
  exact (System.enrolled_of_run hrun).server_of_initialized hinit

theorem Reachable.initialized_of_stopped {settings : Settings} {s : System ι}
    (hs : Reachable settings s) (hstopped : s.roster.stopped = true) :
    s.roster.initialized = true := by
  rcases reachable_iff_run.mp hs with ⟨actions, effects, hrun⟩
  exact (System.enrolled_of_run hrun).initialized_of_stopped hstopped

end Steward
