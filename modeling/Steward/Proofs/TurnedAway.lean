import Steward.Proofs.Doorway

/-!
# Calls That Are Turned Away

A call that is turned away leaves no trace.

A participant that is not registered, a start and a stop that are not accepted: all
four are told why, and it is the first of the reasons in their order. The reasons are
given here without this order, each by what has to be so for it to apply
(`ServerRefusal.Applies` and its like), and the order by a rank; `Foremost` puts the
two together. A participant that panics when it is asked for its name makes the call
end in this panic, whoever's name it was.

Nothing else comes of it. The service after such a call is the service that there
would be if the call had not been made, shows what it would have shown, and from then
on can do whatever it could do then, and nothing else. In particular a panic in a name,
which comes in the middle of a look at the roster, does not keep anybody from looking
at it again.

## Main definitions

* `Foremost`: The first of some reasons that applies.
* `ServerRefusal.Applies`, `DependencyRefusal.Applies`, `StartRefusal.Applies`,
  `StopRefusal.Applies`: What has to be so for a reason to apply.
* `Action.isEntry`: The steps in which calls are let in or turned away.
* `leaveOut`: A sequence of actions without those of one call.
* `Roster.offer`: The questions that serving and attaching begin with.
* `System.Reason`: What a call that is turned away is told.
* `System.FailsToListen`: A start is turned away because it cannot listen.
* `System.Traceless`: A call has left no trace.

## Theorems

* `told_of_offer`: The questions ask for their reasons in order.
* `serve_told`, `attach_told`, `admitStart_refused`, `admitStop_refused`: The reason is
  the first that applies.
* `Reason.of_failsToListen`, `Reason.of_not_failsToListen`: What is told has one thing to
  show.
* `turnedAway_of_act`: What is turned away is told why.
* `run_leaveOut`: A run in which a call does not come further than the door is one
  without the call.
* `turned_away_without_trace`: A call that is turned away leaves no trace.
-/

namespace Steward

variable {ι α : Type}

/-- The first of some reasons that applies. -/
structure Foremost (Applies : α → Prop) (rank : α → Nat) (why : α) : Prop where
  applies : Applies why
  first : ∀ other, Applies other → rank why ≤ rank other

theorem Foremost.of_earlier {Applies : α → Prop} {rank : α → Nat} {why : α}
    (happlies : Applies why) (hearlier : ∀ other, rank other < rank why → ¬Applies other) :
    Foremost Applies rank why where
  applies := happlies
  first other hother := Nat.le_of_not_lt fun hlt => hearlier other hlt hother

namespace ServerRefusal

/-- What has to be so for a reason not to register a server. -/
def Applies (r : Roster ι) (ask : Answers ι) (offered : Option ι) : ServerRefusal → Prop
  | .initialized => r.initialized = true
  | .stopped => r.stopped = true
  | .missing => offered = none
  | .unnamed => ∃ who, offered = some who ∧ ask 0 who = .ok ""
  | .taken name => ∃ current, r.server = some current ∧ ask 1 current = .ok name

/-- The order of the reasons. -/
def rank : ServerRefusal → Nat
  | .initialized => 0
  | .stopped => 1
  | .missing => 2
  | .unnamed => 3
  | .taken _ => 4

end ServerRefusal

namespace DependencyRefusal

/-- What has to be so for a reason not to attach a dependency. -/
def Applies (r : Roster ι) (ask : Answers ι) (offered : Option ι) : DependencyRefusal → Prop
  | .initialized => r.initialized = true
  | .stopped => r.stopped = true
  | .missing => offered = none
  | .unnamed => ∃ who, offered = some who ∧ ask 0 who = .ok ""

/-- The order of the reasons. -/
def rank : DependencyRefusal → Nat
  | .initialized => 0
  | .stopped => 1
  | .missing => 2
  | .unnamed => 3

end DependencyRefusal

namespace ServerRefusal

variable {r : Roster ι} {ask : Answers ι} {offered : Option ι}

/-- A reason not to attach a dependency, as a reason not to register a server. -/
def shared : DependencyRefusal → ServerRefusal
  | .initialized => .initialized
  | .stopped => .stopped
  | .missing => .missing
  | .unnamed => .unnamed

theorem applies_shared (why : DependencyRefusal) :
    (shared why).Applies r ask offered ↔ why.Applies r ask offered := by
  cases why <;> exact Iff.rfl

theorem rank_shared (why : DependencyRefusal) : (shared why).rank = why.rank := by
  cases why <;> rfl

theorem eq_shared_of_rank_lt {why other : ServerRefusal}
    (h : other.rank < why.rank) : ∃ reason, other = shared reason := by
  cases other with
  | initialized => exact ⟨.initialized, rfl⟩
  | stopped => exact ⟨.stopped, rfl⟩
  | missing => exact ⟨.missing, rfl⟩
  | unnamed => exact ⟨.unnamed, rfl⟩
  | taken name =>
      -- Nothing comes behind a name that is taken.
      cases why <;> simp only [rank] at h <;> omega

theorem foremost_shared {why : DependencyRefusal}
    (h : Foremost (DependencyRefusal.Applies r ask offered) DependencyRefusal.rank why) :
    Foremost (Applies r ask offered) rank (shared why) := by
  refine .of_earlier ((applies_shared why).mpr h.applies) fun other hlt hother => ?_
  rcases eq_shared_of_rank_lt hlt with ⟨reason, rfl⟩
  rw [rank_shared, rank_shared] at hlt
  exact Nat.not_le_of_lt hlt (h.first reason ((applies_shared reason).mp hother))

end ServerRefusal

namespace StartRefusal

/-- What has to be so for a reason not to accept a start. -/
def Applies (r : Roster ι) (signals : Signals) (listening : Except String Unit) :
    StartRefusal → Prop
  | .initialized => r.initialized = true
  | .stopped => r.stopped = true
  | .noServer => r.server = none
  | .noSignals => signals.isEmpty = true
  | .notListening error => listening = .error error

/-- The order of the reasons. -/
def rank : StartRefusal → Nat
  | .initialized => 0
  | .stopped => 1
  | .noServer => 2
  | .noSignals => 3
  | .notListening _ => 4

end StartRefusal

namespace StopRefusal

/-- What has to be so for a reason not to accept a stop. -/
def Applies (r : Roster ι) : StopRefusal → Prop
  | .notInitialized => r.initialized = false
  | .stopped => r.stopped = true

/-- The order of the reasons. -/
def rank : StopRefusal → Nat
  | .notInitialized => 0
  | .stopped => 1

end StopRefusal

/-- What a registration that fails is told: the first reason that applies, or a panic
    from one of the names that were asked for. -/
inductive Registration.Told {α : Type} (failureOf : α → Failure) (Applies : α → Prop)
    (rank : α → Nat) (Panics : Panic → Prop) : Registration → Prop where
  | accepted (name : String) : Told failureOf Applies rank Panics (.accepted name)
  | refused (why : α) (h : Foremost Applies rank why) :
    Told failureOf Applies rank Panics (.refused (failureOf why))
  | panicked {p : Panic} (h : Panics p) : Told failureOf Applies rank Panics (.panicked p)

namespace Roster

variable (r : Roster ι) (ask : Answers ι) (offered : Option ι)

/-- A name that is asked for in offering a server ends in a panic: that of the offered
    server, or that of the one that is there. -/
def ServerPanics (p : Panic) : Prop :=
  ∃ who, offered = some who ∧ (ask 0 who = .error p ∨ ask 1 (r.server.getD who) = .error p)

/-- The name of an offered dependency ends in a panic. -/
def DependencyPanics (p : Panic) : Prop :=
  ∃ who, offered = some who ∧ (ask 0 who = .error p ∨ ask 1 who = .error p)

/-- What everybody who is offered is asked, up to having a name: the four questions that
    serving and attaching begin with. A refusal is told by `refuse`, and `next` is what is
    done with one who has a name. -/
def offer (refuse : DependencyRefusal → Registration) (next : ι → Registration × Roster ι) :
    Registration × Roster ι :=
  if r.initialized then (refuse .initialized, r)
  else if r.stopped then (refuse .stopped, r)
  else match offered with
    | none => (refuse .missing, r)
    | some who =>
      match ask 0 who with
      | .error p => (.panicked p, r)
      | .ok name => if name.isEmpty then (refuse .unnamed, r) else next who

/-- The four questions ask for the four reasons in their order, and nothing of them speaks
    against one who has come through. -/
theorem told_of_offer {failureOf : α → Failure} {Applies : α → Prop} {rank : α → Nat}
    {Panics : Panic → Prop} (refuse : DependencyRefusal → Registration)
    (next : ι → Registration × Roster ι)
    (hrefused : ∀ why,
      Foremost (DependencyRefusal.Applies r ask offered) DependencyRefusal.rank why →
        (refuse why).Told failureOf Applies rank Panics)
    (hpanicked : ∀ who p, offered = some who → ask 0 who = .error p → Panics p)
    (hnamed : ∀ who, offered = some who → (∀ why, ¬DependencyRefusal.Applies r ask offered why) →
      (next who).1.Told failureOf Applies rank Panics) :
    (r.offer ask offered refuse next).1.Told failureOf Applies rank Panics := by
  simp only [offer]
  -- Behind each question the reasons before it are known not to apply.
  by_cases hinit : r.initialized = true
  · rw [if_pos hinit]
    exact hrefused .initialized ⟨hinit, fun _ _ => Nat.zero_le _⟩
  rw [if_neg hinit]
  by_cases hstopped : r.stopped = true
  · rw [if_pos hstopped]
    refine hrefused .stopped (.of_earlier hstopped fun other hlt => ?_)
    cases other <;> simp [DependencyRefusal.rank, DependencyRefusal.Applies, hinit] at hlt ⊢
  rw [if_neg hstopped]
  cases offered with
  | none =>
      refine hrefused .missing (.of_earlier rfl fun other hlt => ?_)
      cases other <;>
        simp [DependencyRefusal.rank, DependencyRefusal.Applies, hinit, hstopped] at hlt ⊢
  | some who =>
      dsimp only
      cases hname : ask 0 who with
      | error p => exact .panicked (hpanicked who p rfl hname)
      | ok name =>
          dsimp only
          by_cases hempty : name.isEmpty = true
          · rw [if_pos hempty]
            have hunnamed : ask 0 who = .ok "" := by rw [hname, String.isEmpty_iff.mp hempty]
            refine hrefused .unnamed (.of_earlier ⟨who, rfl, hunnamed⟩ fun other hlt => ?_)
            cases other <;>
              simp [DependencyRefusal.rank, DependencyRefusal.Applies, hinit, hstopped] at hlt ⊢
          · rw [if_neg hempty]
            refine hnamed who rfl fun why happlies => ?_
            have hne : name ≠ "" := fun h => hempty (String.isEmpty_iff.mpr h)
            cases why <;>
              simp [DependencyRefusal.Applies, hinit, hstopped, hname, hne] at happlies

theorem serve_told : (r.serve ask offered).1.Told ServerRefusal.failure
    (ServerRefusal.Applies r ask offered) ServerRefusal.rank (r.ServerPanics ask offered) := by
  refine r.told_of_offer ask offered (fun why => .refused (ServerRefusal.shared why).failure) _
    (fun why hwhy => .refused (ServerRefusal.shared why) (ServerRefusal.foremost_shared hwhy))
    (fun who p hwho hp => ⟨who, hwho, .inl hp⟩) fun who hwho hnone => ?_
  dsimp only
  cases hserver : r.server with
  | none =>
      dsimp only
      cases hagain : ask 1 who with
      | error p => exact .panicked ⟨who, hwho, .inr (by rw [hserver]; exact hagain)⟩
      | ok name => exact .accepted name
  | some current =>
      dsimp only
      cases htaken : ask 1 current with
      | error p => exact .panicked ⟨who, hwho, .inr (by rw [hserver]; exact htaken)⟩
      | ok taken =>
          refine .refused (ServerRefusal.taken taken)
            (.of_earlier ⟨current, hserver, htaken⟩ fun other hlt => ?_)
          -- Only reasons that serving and attaching share come before a name that is taken.
          rcases ServerRefusal.eq_shared_of_rank_lt hlt with ⟨why, rfl⟩
          exact (ServerRefusal.applies_shared why).not.mpr (hnone why)

theorem attach_told : (r.attach ask offered).1.Told DependencyRefusal.failure
    (DependencyRefusal.Applies r ask offered) DependencyRefusal.rank
    (DependencyPanics ask offered) := by
  refine r.told_of_offer ask offered (fun why => .refused why.failure) _
    (fun why hwhy => .refused why hwhy) (fun who p hwho hp => ⟨who, hwho, .inl hp⟩)
    fun who hwho _ => ?_
  cases hagain : ask 1 who with
  | error p => exact .panicked ⟨who, hwho, .inr hagain⟩
  | ok name => exact .accepted name

/-- A start is refused for the first reason that applies. -/
theorem admitStart_refused {signals : Signals} {listening : Except String Unit}
    {why : StartRefusal} (h : r.admitStart signals listening = .error why) :
    Foremost (StartRefusal.Applies r signals listening) StartRefusal.rank why := by
  simp only [admitStart] at h
  -- The reasons in the order in which they are looked for; where one applies, none before it does.
  by_cases hinit : r.initialized = true
  · rw [if_pos hinit] at h
    cases h
    exact ⟨hinit, fun _ _ => Nat.zero_le _⟩
  rw [if_neg hinit] at h
  by_cases hstopped : r.stopped = true
  · rw [if_pos hstopped] at h
    cases h
    refine .of_earlier hstopped fun other hlt => ?_
    cases other <;> simp [StartRefusal.rank, StartRefusal.Applies, hinit] at hlt ⊢
  rw [if_neg hstopped] at h
  cases hserver : r.server with
  | none =>
      rw [hserver] at h
      cases h
      refine .of_earlier hserver fun other hlt => ?_
      cases other <;> simp [StartRefusal.rank, StartRefusal.Applies, hinit, hstopped] at hlt ⊢
  | some server =>
      rw [hserver] at h
      dsimp only at h
      by_cases hsignals : signals.isEmpty = true
      · rw [if_pos hsignals] at h
        cases h
        refine .of_earlier hsignals fun other hlt => ?_
        cases other <;>
          simp [StartRefusal.rank, StartRefusal.Applies, hinit, hstopped, hserver] at hlt ⊢
      rw [if_neg hsignals] at h
      cases listening with
      | ok _ => cases h
      | error e =>
          cases h
          refine .of_earlier rfl fun other hlt => ?_
          cases other <;> simp [StartRefusal.rank, StartRefusal.Applies, hinit, hstopped, hserver,
            hsignals] at hlt ⊢

/-- A stop is refused for the first reason that applies. -/
theorem admitStop_refused {why : StopRefusal} (h : r.admitStop = .error why) :
    Foremost (StopRefusal.Applies r) StopRefusal.rank why := by
  simp only [admitStop] at h
  cases hinit : r.initialized with
  | false =>
      rw [hinit] at h
      cases h
      exact ⟨hinit, fun _ _ => Nat.zero_le _⟩
  | true =>
      rw [hinit] at h
      cases hstopped : r.stopped with
      | false =>
          rw [hstopped] at h
          cases h
      | true =>
          rw [hstopped] at h
          cases h
          refine .of_earlier hstopped fun other hlt => ?_
          cases other <;> simp [StopRefusal.rank, StopRefusal.Applies, hinit] at hlt ⊢

end Roster

/-- Whether calls are let in or turned away in an action. -/
def Action.isEntry : Action ι → Bool
  | .serve _ _ | .attach _ _ | .enterStart _ _ | .enterStop _ => true
  | _ => false

/-- A sequence of actions without those of call `k`, after so many calls were made. -/
def leaveOut (k : Nat) : Nat → List (Action ι) → List (Action ι)
  | _, [] => []
  | made, a :: rest =>
    (if a.call? = some k ∨ a.opens = true ∧ made = k then [] else [a.renumber (closeUp k)]) ++
      leaveOut k (if a.opens then made + 1 else made) rest

/-- How many calls are made in a sequence of actions. -/
def openedIn (actions : List (Action ι)) : Nat :=
  actions.countP Action.opens

theorem openedIn_append_singleton (before : List (Action ι)) (a : Action ι) :
    openedIn (before ++ [a]) = if a.opens then openedIn before + 1 else openedIn before := by
  rw [openedIn, List.countP_append, List.countP_singleton]
  cases a.opens <;> rfl

theorem leaveOut_append_singleton (k made : Nat) (before : List (Action ι)) (a : Action ι) :
    leaveOut k made (before ++ [a]) = leaveOut k made before ++
      if a.call? = some k ∨ a.opens = true ∧ made + openedIn before = k then []
      else [a.renumber (closeUp k)] := by
  induction before generalizing made with
  | nil =>
      rw [List.nil_append, leaveOut, leaveOut, leaveOut]
      exact List.append_nil _
  | cons b rest ih =>
      rw [List.cons_append, leaveOut, ih, leaveOut, List.append_assoc]
      -- The calls made so far are counted along, and the count for the last
      -- action is that of all before it.
      have hmade : (if b.opens then made + 1 else made) + openedIn rest =
          made + openedIn (b :: rest) := by
        rw [openedIn, openedIn, List.countP_cons]
        cases b.opens
        · rfl
        · simp only [if_true]
          omega
      rw [hmade]

namespace System

variable {s t : System ι} {k call : Nat} {a : Action ι} {shown now : List (Effect ι)} {o : Outcome}
  {settings : Settings} {actions : List (Action ι)}

/-- What a call that is turned away is told: the first reason that applies, or a panic
    from a name. -/
inductive Reason (s : System ι) (k : Nat) : Action ι → Outcome → Prop where
  | server {ask : Answers ι} {offered : Option ι} {why : ServerRefusal}
      (h : Foremost (ServerRefusal.Applies s.roster ask offered) ServerRefusal.rank why) :
    Reason s k (.serve ask offered) (.failed why.failure)
  | serverName {ask : Answers ι} {offered : Option ι} {p : Panic}
      (h : s.roster.ServerPanics ask offered p) : Reason s k (.serve ask offered) (.panicked p)
  | dependency {ask : Answers ι} {offered : Option ι} {why : DependencyRefusal}
      (h : Foremost (DependencyRefusal.Applies s.roster ask offered) DependencyRefusal.rank why) :
    Reason s k (.attach ask offered) (.failed why.failure)
  | dependencyName {ask : Answers ι} {offered : Option ι} {p : Panic}
      (h : Roster.DependencyPanics ask offered p) : Reason s k (.attach ask offered) (.panicked p)
  | start {listening : Except String Unit} {why : StartRefusal}
      (h : Foremost (StartRefusal.Applies s.roster s.settings.signals listening)
        StartRefusal.rank why) :
    Reason s k (.enterStart k listening) (.failed why.failure)
  | stop {why : StopRefusal} (h : Foremost (StopRefusal.Applies s.roster) StopRefusal.rank why) :
    Reason s k (.enterStop k) (.failed why.failure)

/-- A registration that fails has one thing to show, and is made and ended at once. -/
theorem register_failed {kind : EventKind} {outcome : Registration × Roster ι}
    (hsame : (∀ name, outcome.1 ≠ .accepted name) → outcome.2 = s.roster)
    (hend : .finished k o ∈ (s.register kind outcome).2) :
    k = s.calls.length ∧ s.register kind outcome = (s.addCall (.ended o), [.finished k o]) ∧
      ((∃ failure, outcome.1 = .refused failure ∧ o = .failed failure) ∨
        ∃ p, outcome.1 = .panicked p ∧ o = .panicked p) := by
  rcases outcome with ⟨_ | failure | p, roster⟩
  · cases hend
  · cases hsame nofun
    cases List.mem_singleton.mp hend
    exact ⟨rfl, rfl, .inl ⟨failure, rfl, rfl⟩⟩
  · cases hsame nofun
    cases List.mem_singleton.mp hend
    exact ⟨rfl, rfl, .inr ⟨p, rfl, rfl⟩⟩

/-- What it is to be turned away in a step: nothing is changed but that the call was
    made and has ended. -/
structure TurnedAway (s : System ι) (a : Action ι) (t : System ι) (now : List (Effect ι))
    (k : Nat) (o : Outcome) : Prop where
  own : a.call? = some k ∨ a.opens = true ∧ s.calls.length = k
  atDoor : ∀ c, s.calls[k]? = some c → c.isAtDoor = true
  told : Reason s k a o
  roster_eq : t.roster = s.roster
  silent : ∃ lines : List LogLine, seenIn now = lines.map .logged ++ [.finished k o]
  ended : t.calls[k]? = some (.ended o)
  without_eq : t.without k = s.without k

theorem turnedAway_of_addCall (hg : s.Gated) (htold : Reason s s.calls.length a o)
    (hopens : a.opens = true) :
    TurnedAway s a (s.addCall (.ended o)) [.finished s.calls.length o] s.calls.length o where
  own := .inr ⟨hopens, rfl⟩
  atDoor c hc := by
    rw [List.getElem?_eq_none (Nat.le_refl _)] at hc
    cases hc
  told := htold
  roster_eq := rfl
  silent := ⟨[], rfl⟩
  ended := List.getElem?_concat_length
  without_eq := without_addCall hg rfl _

/-- A registration that is turned away is told what its outcome tells. -/
theorem turnedAway_of_register {α : Type} {failureOf : α → Failure} {Applies : α → Prop}
    {rank : α → Nat} {Panics : Panic → Prop} {kind : EventKind}
    {outcome : Registration × Roster ι} (hg : s.Gated) (hopens : a.opens = true)
    (htold : outcome.1.Told failureOf Applies rank Panics)
    (hsame : (∀ name, outcome.1 ≠ .accepted name) → outcome.2 = s.roster)
    (hrefused : ∀ why, Foremost Applies rank why →
      Reason s s.calls.length a (.failed (failureOf why)))
    (hpanicked : ∀ p, Panics p → Reason s s.calls.length a (.panicked p))
    (hmade : s.register kind outcome = (t, now)) (hend : .finished k o ∈ now) :
    TurnedAway s a t now k o := by
  have hmem : .finished k o ∈ (s.register kind outcome).2 := by
    rw [hmade]
    exact hend
  rcases register_failed hsame hmem with ⟨rfl, hregister, hout⟩
  cases hregister.symm.trans hmade
  refine turnedAway_of_addCall hg ?_ hopens
  -- What the registration came to is the outcome of the call, so one explains the other.
  rcases hout with ⟨failure, hout, rfl⟩ | ⟨p, hout, rfl⟩
  · rw [hout] at htold
    cases htold with
    | refused why hwhy => exact hrefused why hwhy
  · rw [hout] at htold
    cases htold with
    | panicked hp => exact hpanicked p hp

theorem turnedAway_of_startRefused (hg : s.Gated) {listening : Except String Unit}
    {why : StartRefusal} (hp : s.startPhase? call = some .entering)
    (hrefused : s.roster.admitStart s.settings.signals listening = .error why)
    (hend : .finished k o ∈
      why.logged s.settings.name ++ [(.finished call (.failed why.failure) : Effect ι)]) :
    TurnedAway s (.enterStart call listening) (s.setCall call (.ended (.failed why.failure)))
      (why.logged s.settings.name ++ [.finished call (.failed why.failure)]) k o := by
  have hcall := startPhase?_eq_some.mp hp
  -- The only call that ends here is the one that is refused.
  have hmine : k = call ∧ o = .failed why.failure := by
    rcases List.mem_append.mp hend with hmem | hmem
    · cases why with
      | notListening e => cases List.mem_singleton.mp hmem
      | _ => cases hmem
    · cases List.mem_singleton.mp hmem
      exact ⟨rfl, rfl⟩
  rcases hmine with ⟨rfl, rfl⟩
  -- A start is not at the turnstile.
  have hne : s.turnstile.holder ≠ some k := by
    intro hholder
    rcases (hg.inside k).mp hholder with ⟨p, hstop, -⟩
    rw [stopPhase?_eq_some, hcall] at hstop
    cases hstop
  exact {
    own := .inl rfl
    atDoor := fun c hc => by
      rw [hcall, Option.some.injEq] at hc
      rw [← hc]
      rfl
    told := .start (Roster.admitStart_refused _ hrefused)
    roster_eq := rfl
    silent := by
      cases why with
      | notListening e => exact ⟨[notListeningLine s.settings.name e], rfl⟩
      | _ => exact ⟨[], rfl⟩
    ended := List.getElem?_set_self (List.getElem?_eq_some_iff.mp hcall).1
    without_eq := without_setCall hne _ }

theorem turnedAway_of_stopRefused (hg : s.Gated) {why : StopRefusal}
    (hp : s.stopPhase? call = some .entering) (hrefused : s.roster.admitStop = .error why)
    (hend : .finished k o ∈
      ([] : List (Effect ι)) ++ (s.finishStop call (.failed why.failure)).2) :
    TurnedAway s (.enterStop call) (s.finishStop call (.failed why.failure)).1
      ([] ++ (s.finishStop call (.failed why.failure)).2) k o := by
  rw [List.nil_append] at hend ⊢
  -- Another stop may be woken, but the one that ends is the one that is refused.
  have hmine : k = call ∧ o = .failed why.failure := by
    rw [finishStop_eq] at hend
    rcases List.mem_append.mp hend with hmem | hmem
    · rcases List.mem_map.mp hmem with ⟨next, -, hnext⟩
      cases hnext
    · cases List.mem_singleton.mp hmem
      exact ⟨rfl, rfl⟩
  rcases hmine with ⟨rfl, rfl⟩
  exact {
    own := .inl rfl
    atDoor := fun c hc => by
      rw [stopPhase?_eq_some.mp hp, Option.some.injEq] at hc
      rw [← hc]
      rfl
    told := .stop (Roster.admitStop_refused _ hrefused)
    roster_eq := roster_finishStop _ _ _
    silent := ⟨[], seenIn_finishStop _ _ _⟩
    ended := hg.ended_finishStop hp rfl
    without_eq := without_finishStop_self hg (hg.holder hp rfl) _ }

/-- What is turned away is told why, and changes nothing. -/
theorem turnedAway_of_act (hg : s.Gated) (hact : s.act a = some (t, now))
    (hentry : a.isEntry = true) (hend : .finished k o ∈ now) : TurnedAway s a t now k o := by
  -- A call is turned away in one of four actions, and each of them knows one way to do it.
  cases a with
  | serve ask offered =>
      exact turnedAway_of_register hg rfl (s.roster.serve_told ask offered)
        (fun h => Roster.serve_of_not_accepted h) (fun _ => .server) (fun _ => .serverName)
        (Option.some.inj hact) hend
  | attach ask offered =>
      exact turnedAway_of_register hg rfl (s.roster.attach_told ask offered)
        (fun h => Roster.attach_of_not_accepted h) (fun _ => .dependency)
        (fun _ => .dependencyName) (Option.some.inj hact) hend
  | enterStart call listening =>
      cases step_of_act hact with
      | stopMoved _ hmove => cases hmove
      | stopEnded _ hended => cases hended
      | elsewhere h =>
          cases h with
          | startAdmitted _ _ => cases hend
          | startMoved _ hmove => cases hmove
          | statusMoved _ hmove => cases hmove
          | statusEnded _ hended => cases hended
          | startEnded hp hended =>
              cases hended with
              | refused hrefused => exact turnedAway_of_startRefused hg hp hrefused hend
  | enterStop call =>
      cases step_of_act hact with
      | stopMoved _ hmove =>
          cases hmove
          cases hend
      | stopEnded hp hended =>
          cases hended with
          | refused hrefused => exact turnedAway_of_stopRefused hg hp hrefused hend
      | elsewhere h =>
          cases h with
          | startMoved _ hmove => cases hmove
          | startEnded _ hended => cases hended
          | statusMoved _ hmove => cases hmove
          | statusEnded _ hended => cases hended
  | _ => cases hentry

/-- Call `k` is a start that nothing speaks against but that listening to the signals has
    failed. -/
def FailsToListen (s : System ι) (k : Nat) (a : Action ι) (error : String) : Prop :=
  a = .enterStart k (.error error) ∧
    ∀ why : StartRefusal, why.Applies s.roster s.settings.signals (.error error) →
      why = .notListening error

/-- The failure of a start that cannot listen to the signals has nothing but the error of
    that behind it. -/
theorem Reason.of_failsToListen {failure : Failure} {error : String}
    (h : Reason s k a (.failed failure)) (hfails : FailsToListen s k a error) :
    failure.findings = some [] ∧ failure.causes = [.plain error] := by
  rcases hfails with ⟨rfl, honly⟩
  cases h with
  | start h =>
      rw [honly _ h.applies]
      exact ⟨rfl, rfl⟩

/-- Any other failure of a call that is turned away has one finding and nothing behind
    it. -/
theorem Reason.of_not_failsToListen {failure : Failure} (h : Reason s k a (.failed failure))
    (hnot : ∀ error, ¬FailsToListen s k a error) :
    (∃ finding, failure.findings = some [finding]) ∧ failure.causes = [] := by
  cases h with
  | server h => exact ⟨⟨_, rfl⟩, rfl⟩
  | dependency h => exact ⟨⟨_, rfl⟩, rfl⟩
  | stop h =>
      rename_i why
      cases why <;> exact ⟨⟨_, rfl⟩, rfl⟩
  | start h =>
      rename_i listening why
      cases why with
      | notListening error =>
          -- It is the last of the reasons, so that it is the first to apply says that no
          -- other one does.
          have hlistening : listening = .error error := h.applies
          subst hlistening
          refine absurd ⟨rfl, fun other hother => ?_⟩ (hnot error)
          have hrank := h.first other hother
          cases other with
          | notListening e => exact congrArg _ (Except.error.inj hother).symm
          | _ => simp only [StartRefusal.rank] at hrank; omega
      | _ => exact ⟨⟨_, rfl⟩, rfl⟩

/-- A run in which a call comes no further than the door is a run without the call, and
    shows the same. -/
theorem run_leaveOut (hrun : (System.initial settings).run actions = some (s, shown))
    (hdoor : ∀ c, s.calls[k]? = some c → c.isAtDoor = true) :
    ∃ shown', (System.initial settings).run (leaveOut k 0 actions) = some (s.without k, shown') ∧
      seenIn shown' = (seenIn shown).map (Effect.renumber (closeUp k)) := by
  -- The induction is on the run. How many calls were made is carried along, since it tells when
  -- the call is the next to be made.
  have hall := run_induction (fun before (u : System ι) => u.calls.length = openedIn before ∧
      ∀ shown, (System.initial settings).run before = some (u, shown) →
        (∀ c, u.calls[k]? = some c → c.isAtDoor = true) → ∃ shown',
          (System.initial settings).run (leaveOut k 0 before) = some (u.without k, shown') ∧
            seenIn shown' = (seenIn shown).map (Effect.renumber (closeUp k))) ?_ ?_ hrun
  · exact hall.2 shown hrun hdoor
  · refine ⟨rfl, fun shown hnil _ => ⟨[], ?_, ?_⟩⟩
    · rw [without_of_length_le (Gated.initial settings) (Nat.zero_le k)]
      rfl
    · cases hnil
      rfl
  · rintro before u first a v now - hbefore ⟨hlength, hu⟩ hact
    have hg : u.Gated := (Reachable.initial.run hbefore).gated
    have hstep := step_of_act hact
    refine ⟨?_, fun shown hrun hv => ?_⟩
    · rw [hstep.length_eq, openedIn_append_singleton, hlength]
    rcases run_append_singleton.mp hrun with ⟨u', first', last, hbefore', hact', rfl⟩
    cases hbefore.symm.trans hbefore'
    cases hact.symm.trans hact'
    rw [leaveOut_append_singleton, Nat.zero_add, ← hlength, seenIn_append, List.map_append]
    by_cases hown : a.call? = some k ∨ a.opens = true ∧ u.calls.length = k
    · -- The step is one of the call itself, so it is left out, and nothing comes of it.
      have hk : k < v.calls.length := by
        rcases hown with hcaller | ⟨hopens, hk⟩
        · exact Nat.lt_of_lt_of_le (hstep.caller_lt hcaller) hstep.grows
        · rw [hstep.length_eq, hopens, if_pos rfl]
          omega
      have hlast := List.getElem?_eq_getElem hk
      rcases hstep.without_own hg hown hlast (hv _ hlast) with ⟨heq, hseen, hdoor'⟩
      rcases hu first hbefore hdoor' with ⟨shown', hrun', hshown⟩
      rw [if_pos hown, List.append_nil, heq, hseen, List.map_nil, List.append_nil]
      exact ⟨shown', hrun', hshown⟩
    · -- The step is one of the others. It can be taken without the call, and shows the same.
      rcases not_or.mp hown with ⟨hother, hmade⟩
      have hdoor' : ∀ c, u.calls[k]? = some c → c.isAtDoor = true := by
        intro c hc
        rcases hstep.call_of_other hg hc hother with hstays | rfl
        · exact hv c hstays
        · rfl
      rcases hu first hbefore hdoor' with ⟨shown', hrun', hshown⟩
      rcases hstep.without hg hother (fun hopens hk => hmade ⟨hopens, hk⟩) with
        ⟨now', hstep', hseen⟩
      rw [if_neg hown]
      refine ⟨shown' ++ now', run_append_singleton.mpr
        ⟨_, shown', now', hrun', act_of_step hstep', rfl⟩, ?_⟩
      rw [seenIn_append, hshown, hseen]

/-- A call has left no trace: nothing that others can see, nothing in what it has left
    behind, and nothing in what can come of it. -/
structure Traceless (settings : Settings) (actions : List (Action ι)) (shown : List (Effect ι))
    (s : System ι) (a : Action ι) (t : System ι) (now : List (Effect ι)) (k : Nat)
    (o : Outcome) : Prop where
  roster_eq : t.roster = s.roster
  /-- Nothing is published in the step and no participant is asked for anything. There
      may be a line in the log. -/
  silent : ∃ lines : List LogLine, seenIn now = lines.map .logged ++ [.finished k o]
  told : Reason s k a o
  /-- A start that could not listen to the signals is told one cause and no findings, and
      everybody else who is refused one finding and no causes. -/
  single : ∀ failure, o = .failed failure →
    (∀ error, FailsToListen s k a error →
      failure.findings = some [] ∧ failure.causes = [.plain error]) ∧
    ((∀ error, ¬FailsToListen s k a error) →
      (∃ finding, failure.findings = some [finding]) ∧ failure.causes = [])
  /-- Without the call the same could have happened, and the same would have shown. -/
  unmade : ∃ shown', (System.initial settings).run (leaveOut k 0 (actions ++ [a])) =
      some (t.without k, shown') ∧
    seenIn shown' = (seenIn shown).map (Effect.renumber (closeUp k))
  /-- The call takes no step any more. -/
  finished : ∀ b : Action ι, b.call? = some k → t.act b = none
  /-- All the others can do is what they could do without the call, and the same comes
      of it. -/
  later : ∀ more : List (Action ι),
    (t.run (more.map (Action.renumber (makeRoom k)))).map (fun last =>
        (last.1.without k, (seenIn last.2).map (Effect.renumber (closeUp k)))) =
      ((t.without k).run more).map fun last => (last.1, seenIn last.2)

/-- A call that is turned away leaves no trace, whether it was told why or ended in a
    panic, and however long it had to wait at the door. -/
theorem turned_away_without_trace
    (hrun : (System.initial settings).run actions = some (s, shown))
    (hact : s.act a = some (t, now)) (hentry : a.isEntry = true) (hend : .finished k o ∈ now) :
    Traceless settings actions shown s a t now k o := by
  have hs : Reachable settings s := Reachable.initial.run hrun
  have haway := turnedAway_of_act hs.gated hact hentry hend
  -- The places of the calls are counted by the actions that make one.
  have hlength : s.calls.length = openedIn actions :=
    run_induction (fun before (u : System ι) => u.calls.length = openedIn before) rfl
      (fun before u first b v last _ _ hu hstep => by
        rw [(step_of_act hstep).length_eq, openedIn_append_singleton, hu]) hrun
  exact {
    roster_eq := haway.roster_eq
    silent := haway.silent
    told := haway.told
    single := fun failure hfailure => by
      have htold : Reason s k a (.failed failure) := hfailure ▸ haway.told
      exact ⟨fun error => htold.of_failsToListen, htold.of_not_failsToListen⟩
    unmade := by
      have hown := haway.own
      rw [hlength] at hown
      rw [leaveOut_append_singleton, Nat.zero_add, if_pos hown, List.append_nil, haway.without_eq]
      exact run_leaveOut hrun haway.atDoor
    finished := fun b hb => by
      cases hact' : t.act b with
      | none => rfl
      | some next => exact absurd haway.ended ((step_of_act hact').caller_underway hb o)
    later := run_without (hs.act hact) haway.ended }

/-- A stop that comes too early and keeps another one waiting, and a server that cannot
    tell its name when a second one is offered. -/
theorem turned_away_without_trace_early_and_nameless :
    let first : List (Action Nat) := [.serve (fun _ _ => .ok "api") (some 0), .begin .stop,
      .begin .stop, .approach 1, .approach 2]
    let second : Answers Nat := fun asked _ => if asked = 0 then .ok "api" else .error .mute
    let actions := first ++ [.enterStop 1]
    ∃ s t u shown now last, (System.initial Settings.standard).run first = some (s, shown) ∧
      s.act (.enterStop 1) = some (t, now) ∧ t.turnstile.holder = some 2 ∧
      t.act (.serve second (some 1)) = some (u, last) ∧
      Traceless Settings.standard first shown s (.enterStop 1) t now 1
        (.failed StopRefusal.notInitialized.failure) ∧
      (leaveOut 1 0 actions).length = 3 ∧
      Traceless Settings.standard actions (shown ++ now) t (.serve second (some 1)) u last 3
        (.panicked .mute) := by
  intro first second actions
  have hfirst : (System.initial Settings.standard).run first = some (_, _) := rfl
  have hactions : (System.initial Settings.standard).run actions = some (_, _) := rfl
  exact ⟨_, _, _, _, _, _, hfirst, rfl, rfl, rfl,
    turned_away_without_trace hfirst rfl rfl (List.mem_cons_of_mem _ List.mem_cons_self), rfl,
    turned_away_without_trace hactions rfl rfl List.mem_cons_self⟩

end System

end Steward
