import Steward.Proofs.Recount

/-!
# A Service That Was Started

What a log says of a service by what has happened to it, and most of all after its
start.

From its start on a service has two sides that tell of themselves. One is the start
that was accepted, and there is no other. The other is the line of stops, of which one
at a time has passed the turnstile. `Underway` ties what each has told to the phase in
which it is: the start by its phase, the stops by the blocks of those that have ended
and by the phase of the one that has not.

A step belongs to one side. What has nothing to do with stops leaves their part alone
(`Underway.of_apart`), and a step of a stop takes no start anywhere (`KeepsStarts`).

## Main definitions

* `KeepsStarts`: A step accepts no start and moves none that was accepted.
* `Underway`: What the two sides have told.
* `Logged`: The log of a service and the service itself.

## Theorems

* `calls_finishStop`: What the end of a stop does to the calls.
* `Underway.of_apart`, `Underway.of_approached`, `Underway.of_stopMoved`,
  `Underway.of_stopEnded`: What the two sides have told after a step.
* `Underway.rest_cases`: What has been told of a stop can be completed.
-/

namespace Steward

variable {ι : Type} {nameOf : ι → String}

/-- The phase of a call that is a start. -/
def Call.startPhase? : Call ι → Option (StartPhase ι)
  | .starting p => some p
  | _ => none

/-- A stop that has passed the turnstile of a service that was not started has seen
    nothing yet. -/
theorem StopPhase.Sound.eq_entering {r : Roster ι} {p : StopPhase ι} (h : p.Sound r)
    (hin : p.isInside = true) (hinit : r.initialized = false) : p = .entering := by
  have hnot : ¬ r.initialized = true := Bool.eq_false_iff.mp hinit
  cases p with
  | arriving | queued => cases hin
  | entering => rfl
  | succeeded => exact absurd h.1 hnot
  | marked => exact absurd h.1 hnot
  | _ => exact absurd h.1.1 hnot

namespace System

variable {s t : System ι} {call : Nat} {a : Action ι} {effects : List (Effect ι)}

theorem startPhase?_eq_bind (s : System ι) (i : Nat) :
    s.startPhase? i = s.calls[i]?.bind Call.startPhase? := by
  unfold startPhase? Call.startPhase?
  cases s.calls[i]? with
  | none => rfl
  | some c => cases c <;> rfl

theorem startPhase?_set {old new : Call ι} (h : s.calls[call]? = some old)
    (hcalls : t.calls = s.calls.set call new) (i : Nat) :
    t.startPhase? i = if i = call then new.startPhase? else s.startPhase? i := by
  rw [startPhase?_eq_bind, startPhase?_eq_bind, hcalls, bind_getElem?_set _ h]

theorem startPhase?_append {new : Call ι} (hcalls : t.calls = s.calls ++ [new]) (i : Nat) :
    t.startPhase? i = if i = s.calls.length then new.startPhase? else s.startPhase? i := by
  rw [startPhase?_eq_bind, startPhase?_eq_bind, hcalls, bind_getElem?_append]

/-- Every accepted start was one before. -/
def KeepsStarts (s t : System ι) : Prop :=
  ∀ i p, t.startPhase? i = some p → p.isAccepted = true → s.startPhase? i = some p

theorem keepsStarts_of_set {old new : Call ι} (h : s.calls[call]? = some old)
    (hcalls : t.calls = s.calls.set call new)
    (hnew : ∀ p, new.startPhase? = some p → p.isAccepted = false) : s.KeepsStarts t := by
  intro i p hp haccepted
  rw [startPhase?_set h hcalls] at hp
  by_cases hi : i = call
  · rw [if_pos hi] at hp
    rw [hnew p hp] at haccepted
    cases haccepted
  · rw [if_neg hi] at hp
    exact hp

theorem keepsStarts_of_append {new : Call ι} (hcalls : t.calls = s.calls ++ [new])
    (hnew : ∀ p, new.startPhase? = some p → p.isAccepted = false) : s.KeepsStarts t := by
  intro i p hp haccepted
  rw [startPhase?_append hcalls] at hp
  by_cases hi : i = s.calls.length
  · rw [if_pos hi] at hp
    rw [hnew p hp] at haccepted
    cases haccepted
  · rw [if_neg hi] at hp
    exact hp

theorem keepsStarts_of_same (hcalls : t.calls = s.calls) : s.KeepsStarts t := by
  intro i p hp _
  rw [startPhase?_eq_bind, hcalls, ← startPhase?_eq_bind] at hp
  exact hp

/-- A stop that ends does so as any call does, and the first in line is let in. -/
theorem calls_finishStop (hg : s.Gated) {p : StopPhase ι} (hp : s.stopPhase? call = some p)
    (hin : p.isInside = true) (o : Outcome) :
    (s.finishStop call o).1.calls = (s.setCall call (.ended o)).calls ∨
      ∃ next, (s.setCall call (.ended o)).calls[next]? = some (.stopping .queued) ∧
        (s.finishStop call o).1.calls =
          (s.setCall call (.ended o)).calls.set next (.stopping .entering) := by
  rw [finishStop_eq]
  dsimp only
  cases hhead : s.turnstile.waiting.head? with
  | none => exact Or.inl rfl
  | some next =>
      rcases hg.of_head? hp hin hhead with ⟨hne, hqueued⟩
      refine Or.inr ⟨next, ?_, rfl⟩
      rw [setCall, List.getElem?_set_ne hne.symm]
      exact stopPhase?_eq_some.mp hqueued

theorem keepsStarts_finishStop (hg : s.Gated) {p : StopPhase ι} (hp : s.stopPhase? call = some p)
    (hin : p.isInside = true) (o : Outcome) : s.KeepsStarts (s.finishStop call o).1 := by
  have hended : s.KeepsStarts (s.setCall call (.ended o)) :=
    keepsStarts_of_set (stopPhase?_eq_some.mp hp) rfl nofun
  intro i q hq haccepted
  rcases calls_finishStop hg hp hin o with hcalls | ⟨next, hqueued, hcalls⟩
  · exact hended i q (keepsStarts_of_same hcalls i q hq haccepted) haccepted
  · exact hended i q (keepsStarts_of_set hqueued hcalls nofun i q hq haccepted) haccepted

/-- A service that was started: what its start has told, the blocks of the stops that
    have ended, and what has been told of the one that has not. -/
structure Underway (nameOf : ι → String) (s : System ι) (server : ι)
    (start stops rest : List Notice) : Prop where
  initialized : s.roster.initialized = true
  server_eq : s.roster.server = some server
  trace : StartTrace (nameOf server) start
  /-- Only one start was accepted. -/
  starts : ∃ starter, ∀ call p, s.startPhase? call = some p → p.isAccepted = true →
    call = starter ∧ p.Recounts nameOf (nameOf server) start
  blocks : StopBlocks (nameOf server) (s.roster.dependencies.map nameOf) s.roster.stopped stops
  free : s.turnstile.holder = none → rest = []
  shows : ∀ call p, s.stopPhase? call = some p → p.isInside = true →
    p.Recounts nameOf s.roster rest

/-- The log of a service, with what is owed to it, is about the service as it is. -/
inductive Logged (nameOf : ι → String) (s : System ι) : List Notice → Prop where
  | unstarted {log : List Notice} (hinit : s.roster.initialized = false)
      (hregistrations : Registrations (s.roster.server.map nameOf)
        (s.roster.dependencies.map nameOf) log)
      (hnone : ∀ call p, s.startPhase? call = some p → p.isAccepted = false) :
    Logged nameOf s log
  | started {registrations start stops rest told : List Notice} {server : ι}
      (hregistrations : Registrations (some (nameOf server)) (s.roster.dependencies.map nameOf)
        registrations)
      (hunderway : Underway nameOf s server start stops rest)
      (htold : Shuffle start (stops ++ rest) told) :
    Logged nameOf s (registrations ++ startingNotice (nameOf server) :: told)

namespace Underway

variable {server : ι} {start stops rest : List Notice}

/-- What has nothing to do with stops leaves them as they were told of. -/
theorem of_apart (h : Underway nameOf s server start stops rest) (hapart : Apart s a t effects)
    (hroster : t.roster = s.roster) {start' : List Notice}
    (htrace : StartTrace (nameOf server) start')
    (hstarts : ∃ starter, ∀ call p, t.startPhase? call = some p → p.isAccepted = true →
      call = starter ∧ p.Recounts nameOf (nameOf server) start') :
    Underway nameOf t server start' stops rest where
  initialized := by rw [hroster]; exact h.initialized
  server_eq := by rw [hroster]; exact h.server_eq
  trace := htrace
  starts := hstarts
  blocks := by rw [hroster]; exact h.blocks
  free := by rw [hapart.turnstile]; exact h.free
  shows := by
    intro i p hp hin
    rw [hroster]
    -- No stop passes the turnstile in such a step.
    rcases hapart.comes i p hp with hp | ⟨rfl, -⟩
    · exact h.shows i p hp hin
    · cases hin

theorem starts_of_keeps (h : Underway nameOf s server start stops rest) (hkeeps : s.KeepsStarts t) :
    ∃ starter, ∀ call p, t.startPhase? call = some p → p.isAccepted = true →
      call = starter ∧ p.Recounts nameOf (nameOf server) start := by
  rcases h.starts with ⟨starter, hstarts⟩
  exact ⟨starter, fun i p hp haccepted => hstarts i p (hkeeps i p hp haccepted) haccepted⟩

/-- A stop comes to the turnstile. If it passes, nothing was told of it yet. -/
theorem of_approached (h : Underway nameOf s server start stops rest)
    (hp : s.stopPhase? call = some .arriving) :
    Underway nameOf ({ s with turnstile := s.turnstile.enter call }.setStop call
      (if s.turnstile.holder.isNone then .entering else .queued)) server start stops rest where
  initialized := h.initialized
  server_eq := h.server_eq
  trace := h.trace
  starts := h.starts_of_keeps (keepsStarts_of_set (stopPhase?_eq_some.mp hp) rfl nofun)
  blocks := h.blocks
  free := by
    -- Someone holds the turnstile now.
    intro hholder
    cases hh : s.turnstile.holder <;>
      simp only [setStop, setCall, Turnstile.enter, hh, reduceCtorEq] at hholder
  shows := by
    intro i q hq hin
    rw [stopPhase?_setStop hp] at hq
    by_cases hi : i = call
    · rw [if_pos hi, Option.some.injEq] at hq
      cases hh : s.turnstile.holder with
      | none =>
          -- It passes at once, and nothing is being told of any other.
          rw [hh] at hq
          rw [← hq, h.free hh]
          exact .entering nameOf _
      | some first =>
          rw [hh] at hq
          rw [← hq] at hin
          cases hin
    · rw [if_neg hi] at hq
      exact h.shows i q hq hin

/-- A stop goes on. -/
theorem of_stopMoved (h : Underway nameOf s server start stops rest) (hg : s.Gated)
    {p q : StopPhase ι} (hp : s.stopPhase? call = some p) (hmove : StopMove s call p a effects q)
    {stops' rest' : List Notice}
    (hblocks : StopBlocks (nameOf server) (s.roster.dependencies.map nameOf)
      (p.rosterAfter s.roster).stopped stops')
    (hrest : q.Recounts nameOf (p.rosterAfter s.roster) rest') :
    Underway nameOf ({ s with
        roster := p.rosterAfter s.roster
        taskCount := s.taskCount + p.toSpawn.length }.setStop call q) server start stops' rest' where
  initialized := by
    change (p.rosterAfter s.roster).initialized = true
    cases p <;> exact h.initialized
  server_eq := by
    change (p.rosterAfter s.roster).server = some server
    cases p <;> exact h.server_eq
  trace := h.trace
  starts := h.starts_of_keeps (keepsStarts_of_set (stopPhase?_eq_some.mp hp) rfl nofun)
  blocks := by
    change StopBlocks _ ((p.rosterAfter s.roster).dependencies.map nameOf) _ stops'
    have hdeps : (p.rosterAfter s.roster).dependencies = s.roster.dependencies := by
      cases p <;> rfl
    rw [hdeps]
    exact hblocks
  -- The turnstile is held by the stop that moves.
  free := by
    intro hfree
    change s.turnstile.holder = none at hfree
    rw [hg.holder hp hmove.isInside.1] at hfree
    cases hfree
  shows := by
    intro i q' hq hin
    rw [stopPhase?_setStop hp] at hq
    by_cases hi : i = call
    · rw [if_pos hi, Option.some.injEq] at hq
      rw [← hq]
      exact hrest
    · -- No other stop has passed the turnstile.
      rw [if_neg hi] at hq
      exact absurd (hg.eq_of_isInside hp hmove.isInside.1 hq hin) hi

/-- A stop ends, and nothing was told of the next one yet. -/
theorem of_stopEnded (h : Underway nameOf s server start stops rest) (hg : s.Gated)
    {p : StopPhase ι} (hp : s.stopPhase? call = some p) (hin : p.isInside = true) (o : Outcome)
    {stops' : List Notice}
    (hblocks : StopBlocks (nameOf server) (s.roster.dependencies.map nameOf) s.roster.stopped stops') :
    Underway nameOf (s.finishStop call o).1 server start stops' [] where
  initialized := by rw [roster_finishStop]; exact h.initialized
  server_eq := by rw [roster_finishStop]; exact h.server_eq
  trace := h.trace
  starts := h.starts_of_keeps (keepsStarts_finishStop hg hp hin o)
  blocks := by rw [roster_finishStop]; exact hblocks
  free := fun _ => rfl
  shows := by
    -- The one that has ended was the only one inside.
    intro i q hq hinside
    rw [hg.stopPhase?_finishStop hp hin] at hq
    split at hq
    · cases hq
    · rename_i hi
      split at hq
      · -- This one is let in now.
        rw [← Option.some.inj hq]
        exact .entering nameOf _
      · exact absurd (hg.eq_of_isInside hp hin hq hinside) hi

/-- Of the stop that has not ended nothing has been told, or it can still end. -/
theorem rest_cases (h : Underway nameOf s server start stops rest) (hg : s.Gated) (hs : s.Sound) :
    rest = [] ∨ s.roster.stopped = false ∧
      OpenStop (nameOf server) (s.roster.dependencies.map nameOf) rest := by
  cases hholder : s.turnstile.holder with
  | none => exact Or.inl (h.free hholder)
  | some call =>
      rcases (hg.inside call).mp hholder with ⟨p, hp, hin⟩
      exact (h.shows call p hp hin).openStop (hs call p hp) hin h.server_eq

end Underway

end System

end Steward
