import Steward.Proofs.Phase
import Steward.Proofs.Step.Inversion

/-!
# One Stop at a Time

Why at most one stop does anything at a time, and which.

The turnstile is a number and a line of numbers, and knows nothing of phases;
the phases of the stops know nothing of the turnstile. `Gated` is what ties the
two together in every system that a service can come to: the stop that holds the
turnstile is the one that has passed it, and those in line are those that wait.
From there on a step of a stop is a step of the holder, so whatever is to be said
about all stops needs to be said about one.

The one place where a step touches two calls is the end of a stop, which hands
the turnstile on. `stopPhase?_finishStop` says what becomes of every stop then.

## Main definitions

* `StopPhase.isInside`: A stop has passed the turnstile.
* `System.Gated`: The turnstile and the phases agree.
* `System.View`: What a step is to one stop.

## Theorems

* `Gated.eq_of_isInside`: Two stops that have passed are one.
* `Gated.stopPhase?_finishStop`: The phases after the end of a stop.
* `Gated.step`: A step keeps the turnstile and the phases in agreement.
* `Step.view`: A step is taken beside a stop that has passed, or moves or ends it.
* `Step.stopEnd`: What has ended has ended in one of the known ways.
* `Reachable.gated`: They always agree.
-/

namespace Steward

variable {ι : Type}

/-- Whether a stop has passed the turnstile. -/
def StopPhase.isInside : StopPhase ι → Bool
  | .arriving | .queued => false
  | _ => true

namespace System

variable {s t : System ι} {call : Nat} {effects : List (Effect ι)} {p q : StopPhase ι}
  {a : Action ι} {o : Outcome}

theorem StopMove.isInside (h : StopMove s call p a effects q) :
    p.isInside = true ∧ q.isInside = true := by
  cases h <;> exact ⟨rfl, rfl⟩

theorem StopEnd.isInside (h : StopEnd s call p a effects o) : p.isInside = true := by
  cases h <;> rfl

section FinishStop

variable (s : System ι) (call : Nat) (o : Outcome)

/-- A stop that ends leaves the turnstile, and lets in and wakes the first in
    line. Nothing else changes. -/
theorem finishStop_eq : s.finishStop call o =
    ({ s with
        turnstile := s.turnstile.leave
        calls := match s.turnstile.waiting.head? with
          | none => s.calls.set call (.ended o)
          | some next => (s.calls.set call (.ended o)).set next (.stopping .entering) },
      s.turnstile.waiting.head?.toList.map .woken ++ [.finished call o]) := by
  simp only [finishStop, finish, Turnstile.leave, setCall]
  cases s.turnstile.waiting.head? <;> rfl

/-- To whom a call that is woken says nothing, the end of a stop shows one thing. -/
theorem filterMap_finishStop {α : Type} {f : Effect ι → Option α}
    (hf : ∀ i, f (.woken i) = none) :
    (s.finishStop call o).2.filterMap f = (f (.finished call o)).toList := by
  have hwoken : (s.turnstile.waiting.head?.toList.map .woken).filterMap f = [] := by
    rw [List.filterMap_eq_nil_iff]
    intro e he
    rcases List.mem_map.mp he with ⟨next, -, rfl⟩
    exact hf next
  rw [finishStop_eq, List.filterMap_append, hwoken, List.nil_append]
  cases hlast : f (.finished call o) <;>
    simp only [List.filterMap_cons, List.filterMap_nil, hlast, Option.toList]

@[simp] theorem roster_finishStop : (s.finishStop call o).1.roster = s.roster := by
  rw [finishStop_eq]

@[simp] theorem serverTask_finishStop : (s.finishStop call o).1.serverTask = s.serverTask := by
  rw [finishStop_eq]

@[simp] theorem turnstile_finishStop :
    (s.finishStop call o).1.turnstile = s.turnstile.leave := by
  rw [finishStop_eq]

end FinishStop

/-- The turnstile and the phases of the stops agree. -/
structure Gated (s : System ι) : Prop where
  wellFormed : s.turnstile.WellFormed
  /-- Who holds the turnstile has passed it, and nobody else has. -/
  inside : ∀ call, s.turnstile.holder = some call ↔
    ∃ p, s.stopPhase? call = some p ∧ p.isInside = true
  /-- In line are those that wait. -/
  queued : ∀ call, call ∈ s.turnstile.waiting ↔ s.stopPhase? call = some .queued
  nodup : s.turnstile.waiting.Nodup

namespace Gated

theorem holder (hg : Gated s) (hp : s.stopPhase? call = some p) (hin : p.isInside = true) :
    s.turnstile.holder = some call :=
  (hg.inside call).mpr ⟨p, hp, hin⟩

/-- Two stops that have passed are one. -/
theorem eq_of_isInside (hg : Gated s) (hp : s.stopPhase? call = some p)
    (hin : p.isInside = true) {other : Nat} (hq : s.stopPhase? other = some q)
    (hin' : q.isInside = true) : other = call := by
  have hholder : some other = some call := (hg.holder hq hin').symm.trans (hg.holder hp hin)
  exact Option.some.inj hholder

theorem initial (settings : Settings) : Gated (System.initial settings : System ι) := by
  refine ⟨fun _ => rfl, fun call => ?_, fun call => ?_, List.nodup_nil⟩
  · exact ⟨nofun, nofun⟩
  · exact ⟨nofun, nofun⟩

/-- The first in line waits, so it is another call than the one that has
    passed. -/
theorem of_head? (hg : Gated s) (hp : s.stopPhase? call = some p) (hin : p.isInside = true)
    {next : Nat} (hhead : s.turnstile.waiting.head? = some next) :
    next ≠ call ∧ s.stopPhase? next = some .queued := by
  have hqueued : s.stopPhase? next = some .queued :=
    (hg.queued next).mp (List.mem_of_head? hhead)
  refine ⟨?_, hqueued⟩
  -- What waits at the turnstile has not passed it.
  rintro rfl
  rw [hqueued, Option.some.injEq] at hp
  rw [← hp] at hin
  cases hin

/-- The phases after the end of a stop: it is gone, and the first in line is in
    its place. -/
theorem stopPhase?_finishStop (hg : Gated s) (hp : s.stopPhase? call = some p)
    (hin : p.isInside = true) (o : Outcome) (i : Nat) :
    (s.finishStop call o).1.stopPhase? i =
      if i = call then none
      else if s.turnstile.waiting.head? = some i then some .entering
      else s.stopPhase? i := by
  have hcall := stopPhase?_eq_some.mp hp
  -- The first of the two writes takes the stop itself away.
  have hset : ∀ i, (s.calls.set call (.ended o))[i]?.bind Call.stopPhase? =
      if i = call then none else s.stopPhase? i := by
    intro i
    rw [bind_getElem?_set _ hcall, stopPhase?_eq_bind]
    rfl
  rw [stopPhase?_eq_bind, finishStop_eq]
  dsimp only
  cases hhead : s.turnstile.waiting.head? with
  | none =>
      rw [hset]
      simp only [reduceCtorEq, if_false]
  | some next =>
      rcases hg.of_head? hp hin hhead with ⟨hne, hqueued⟩
      -- The second finds its place as it was.
      have hnext : (s.calls.set call (.ended o))[next]? = some (.stopping .queued) := by
        rw [List.getElem?_set_ne hne.symm]
        exact stopPhase?_eq_some.mp hqueued
      simp only [bind_getElem?_set _ hnext, hset, Option.some.injEq]
      by_cases hi : i = next
      · rw [if_pos hi, if_neg (hi ▸ hne), if_pos hi.symm]
        rfl
      · rw [if_neg hi, if_neg (fun h : next = i => hi h.symm)]

theorem of_apart (hg : Gated s) (h : Apart s a t effects) : Gated t := by
  refine ⟨?_, fun i => ?_, fun i => ?_, ?_⟩
  · rw [h.turnstile]
    exact hg.wellFormed
  · rw [h.turnstile, hg.inside]
    constructor
    · rintro ⟨p, hp, hin⟩
      exact ⟨p, h.stays i p hp, hin⟩
    · rintro ⟨p, hp, hin⟩
      -- A stop that has just begun is not inside.
      rcases h.comes i p hp with hp | ⟨rfl, -⟩
      · exact ⟨p, hp, hin⟩
      · cases hin
  · rw [h.turnstile, hg.queued]
    constructor
    · exact h.stays i .queued
    · intro hp
      rcases h.comes i .queued hp with hp | ⟨hp, -⟩
      · exact hp
      · cases hp
  · rw [h.turnstile]
    exact hg.nodup

/-- A stop that comes to the turnstile passes it or joins the line. -/
theorem of_approached (hg : Gated s) (hp : s.stopPhase? call = some .arriving) :
    Gated ({ s with turnstile := s.turnstile.enter call }.setStop call
      (if s.turnstile.holder.isNone then .entering else .queued)) := by
  cases hh : s.turnstile.holder with
  | none =>
      -- It passes, and nobody was in line.
      have henter : s.turnstile.enter call = ⟨some call, s.turnstile.waiting⟩ := by
        simp only [Turnstile.enter, hh]
      have hempty : s.turnstile.waiting = [] := hg.wellFormed hh
      have hphase := stopPhase?_setStop hp s.roster ⟨some call, s.turnstile.waiting⟩ s.taskCount
        .entering
      rw [henter, Option.isNone_none, if_pos rfl]
      refine ⟨henter ▸ s.turnstile.wellFormed_enter call, fun i => ?_, fun i => ?_, hg.nodup⟩
      · rw [hphase]
        change some call = some i ↔ _
        by_cases hi : i = call
        · rw [if_pos hi, hi]
          exact ⟨fun _ => ⟨.entering, rfl, rfl⟩, fun _ => rfl⟩
        · rw [if_neg hi, ← hg.inside, hh]
          exact ⟨fun h => absurd (Option.some.inj h).symm hi, nofun⟩
      · rw [hphase]
        change i ∈ s.turnstile.waiting ↔ _
        by_cases hi : i = call
        · rw [if_pos hi, hempty]
          exact ⟨nofun, nofun⟩
        · rw [if_neg hi]
          exact hg.queued i
  | some first =>
      -- It waits behind all others.
      have henter : s.turnstile.enter call = ⟨some first, s.turnstile.waiting ++ [call]⟩ := by
        simp only [Turnstile.enter, hh]
      have hphase := stopPhase?_setStop hp s.roster ⟨some first, s.turnstile.waiting ++ [call]⟩
        s.taskCount .queued
      have hnew : call ∉ s.turnstile.waiting := by
        intro hmem
        rw [hg.queued, hp] at hmem
        cases hmem
      rw [henter, Option.isNone_some, if_neg Bool.false_ne_true]
      refine ⟨henter ▸ s.turnstile.wellFormed_enter call, fun i => ?_, fun i => ?_, ?_⟩
      · have hfirst := hg.inside i
        rw [hh] at hfirst
        rw [hphase]
        change some first = some i ↔ _
        by_cases hi : i = call
        · -- The holder has passed the turnstile, and the one that comes has not.
          rw [if_pos hi, hfirst, hi, hp]
          constructor
          · rintro ⟨p, hp, hin⟩
            cases hp
            cases hin
          · rintro ⟨p, hp, hin⟩
            cases hp
            cases hin
        · rw [if_neg hi]
          exact hfirst
      · rw [hphase]
        change i ∈ s.turnstile.waiting ++ [call] ↔ _
        rw [List.mem_append, List.mem_singleton]
        by_cases hi : i = call
        · rw [if_pos hi]
          exact ⟨fun _ => rfl, fun _ => Or.inr hi⟩
        · rw [if_neg hi, or_iff_left hi]
          exact hg.queued i
      · -- The one that comes is not yet in the line, so nobody stands there twice.
        refine List.nodup_append.mpr ⟨hg.nodup, List.nodup_cons.mpr ⟨nofun, List.nodup_nil⟩, ?_⟩
        intro i hi j hj hij
        rw [List.mem_singleton.mp hj] at hij
        exact hnew (hij ▸ hi)

theorem of_moved (hg : Gated s) (hp : s.stopPhase? call = some p) (hin : p.isInside = true)
    (hin' : q.isInside = true) (hturnstile : t.turnstile = s.turnstile)
    (hphase : ∀ i, t.stopPhase? i = if i = call then some q else s.stopPhase? i) : Gated t := by
  refine ⟨?_, fun i => ?_, fun i => ?_, ?_⟩
  · rw [hturnstile]
    exact hg.wellFormed
  · rw [hturnstile, hphase]
    by_cases hi : i = call
    · -- The call is inside before and after, so it is the holder.
      rw [if_pos hi, hi, hg.holder hp hin]
      exact ⟨fun _ => ⟨q, rfl, hin'⟩, fun _ => rfl⟩
    · rw [if_neg hi]
      exact hg.inside i
  · rw [hturnstile, hphase, hg.queued]
    by_cases hi : i = call
    · -- Neither where it was nor where it is does it wait.
      rw [if_pos hi, hi, hp, Option.some.injEq, Option.some.injEq]
      constructor
      · rintro rfl
        cases hin
      · rintro rfl
        cases hin'
    · rw [if_neg hi]
  · rw [hturnstile]
    exact hg.nodup

/-- A stop ends, and the first in line holds the turnstile instead. -/
theorem of_ended (hg : Gated s) (hp : s.stopPhase? call = some p) (hin : p.isInside = true)
    (o : Outcome) : Gated (s.finishStop call o).1 := by
  have hphase := hg.stopPhase?_finishStop hp hin o
  have hcall : call ∉ s.turnstile.waiting := by
    intro hmem
    rw [hg.queued, hp, Option.some.injEq] at hmem
    rw [hmem] at hin
    cases hin
  refine ⟨?_, fun i => ?_, fun i => ?_, ?_⟩
  · rw [turnstile_finishStop]
    exact s.turnstile.wellFormed_leave
  · rw [turnstile_finishStop, hphase]
    change s.turnstile.waiting.head? = some i ↔ _
    by_cases hi : i = call
    · rw [if_pos hi, hi]
      exact ⟨fun h => absurd (List.mem_of_head? h) hcall, nofun⟩
    · rw [if_neg hi]
      -- Inside is now the first in line, and nobody else was.
      by_cases hhead : s.turnstile.waiting.head? = some i
      · rw [if_pos hhead]
        exact ⟨fun _ => ⟨.entering, rfl, rfl⟩, fun _ => hhead⟩
      · rw [if_neg hhead]
        refine ⟨fun h => absurd h hhead, fun ⟨q, hq, hinq⟩ => ?_⟩
        exact absurd (hg.eq_of_isInside hp hin hq hinq) hi
  · rw [turnstile_finishStop, hphase]
    change i ∈ s.turnstile.waiting.tail ↔ _
    cases hw : s.turnstile.waiting with
    | nil =>
        rw [List.head?_nil, List.tail_nil]
        by_cases hi : i = call
        · rw [if_pos hi]
          exact ⟨nofun, nofun⟩
        · rw [if_neg hi, if_neg (by simp only [reduceCtorEq, not_false_eq_true]), ← hg.queued, hw]
    | cons next rest =>
        -- The first in line was in line once, so it waits no longer.
        have hnodup := hg.nodup
        rw [hw, List.nodup_cons] at hnodup
        simp only [List.head?_cons, List.tail_cons, Option.some.injEq]
        by_cases hi : i = call
        · rw [if_pos hi, hi]
          refine ⟨fun h => absurd ?_ hcall, nofun⟩
          rw [hw]
          exact List.mem_cons_of_mem _ h
        · rw [if_neg hi]
          by_cases hnext : next = i
          · rw [if_pos hnext, ← hnext]
            exact ⟨fun h => absurd h hnodup.1, nofun⟩
          · rw [if_neg hnext, ← hg.queued, hw, List.mem_cons, or_iff_right (fun h => hnext h.symm)]
  · rw [turnstile_finishStop]
    exact hg.nodup.tail

/-- A step keeps the turnstile and the phases in agreement. -/
theorem step (hg : Gated s) (h : Step s a t effects) : Gated t := by
  cases h with
  | elsewhere h => exact hg.of_apart h.apart
  | approached hp => exact hg.of_approached hp
  | stopMoved hp hmove =>
      exact hg.of_moved hp hmove.isInside.1 hmove.isInside.2 rfl
        (stopPhase?_setStop hp _ _ _ _)
  | stopEnded hp hend => exact hg.of_ended hp hend.isInside _

end Gated

/-- What a step is to one stop: it is taken beside it, or it moves or ends it. -/
inductive View (s : System ι) (call : Nat) (p : StopPhase ι) (a : Action ι) (t : System ι)
    (effects : List (Effect ι)) : Prop where
  | beside (hcaller : a.call? ≠ some call) (hphase : t.stopPhase? call = some p)
      (hroster : s.roster.initialized = true → t.roster = s.roster)
      (hgoing : ∀ o, .finished call o ∉ effects) : View s call p a t effects
  | move {q : StopPhase ι} (hmove : StopMove s call p a effects q)
      (hphase : t.stopPhase? call = some q) (hroster : t.roster = p.rosterAfter s.roster) :
    View s call p a t effects
  | ending {shown : List (Effect ι)} {o : Outcome} (hend : StopEnd s call p a shown o)
      (hgone : t.calls[call]? = some (.ended o)) (hroster : t.roster = s.roster)
      (heffects : effects = shown ++ (s.finishStop call o).2) : View s call p a t effects

theorem Gated.ended_finishStop (hg : s.Gated) (hp : s.stopPhase? call = some p)
    (hin : p.isInside = true) : (s.finishStop call o).1.calls[call]? = some (.ended o) := by
  have hlt : call < s.calls.length :=
    (List.getElem?_eq_some_iff.mp (stopPhase?_eq_some.mp hp)).1
  rw [finishStop_eq]
  dsimp only
  cases hhead : s.turnstile.waiting.head? with
  | none => exact List.getElem?_set_self hlt
  | some next =>
      rw [List.getElem?_set_ne (hg.of_head? hp hin hhead).1]
      exact List.getElem?_set_self hlt

/-- Every step is one of these to a stop that has passed the turnstile. -/
theorem Step.view (hg : s.Gated) (hp : s.stopPhase? call = some p) (hin : p.isInside = true)
    (h : Step s a t effects) : View s call p a t effects := by
  cases h with
  | elsewhere h =>
      have hapart := h.apart
      refine .beside (hapart.caller call p hp) (hapart.stays call p hp) hapart.roster ?_
      intro o hfinished
      rw [hapart.unfinished call o hfinished] at hp
      cases hp
  | @approached other harrives =>
      -- Who arrives has not passed.
      have hne : call ≠ other := by
        rintro rfl
        rw [hp, Option.some.injEq] at harrives
        rw [harrives] at hin
        cases hin
      refine .beside (fun h => hne (Option.some.inj h).symm) ?_ (fun _ => rfl) nofun
      rw [stopPhase?_setStop harrives, if_neg hne]
      exact hp
  | @stopMoved other p' q a shown hp' hmove =>
      -- Whoever moves has passed, so it is the one looked at.
      have hsame := hg.eq_of_isInside hp hin hp' hmove.isInside.1
      subst hsame
      rw [hp, Option.some.injEq] at hp'
      subst hp'
      refine .move hmove ?_ rfl
      rw [stopPhase?_setStop hp, if_pos rfl]
  | @stopEnded other p' a shown o hp' hend =>
      have hsame := hg.eq_of_isInside hp hin hp' hend.isInside
      subst hsame
      rw [hp, Option.some.injEq] at hp'
      subst hp'
      exact .ending hend (hg.ended_finishStop hp hin) (roster_finishStop _ _ _) rfl

/-- If a stop that has passed the turnstile has ended after a step, the step is its
    end. -/
theorem Step.stopEnd (hg : s.Gated) (hp : s.stopPhase? call = some p) (hin : p.isInside = true)
    (h : Step s a t effects) (hended : t.calls[call]? = some (.ended o)) :
    ∃ shown, StopEnd s call p a shown o ∧ t.roster = s.roster ∧
      effects = shown ++ (s.finishStop call o).2 := by
  have hnone : t.stopPhase? call = none := by
    rw [stopPhase?_eq_bind, hended]
    rfl
  rcases h.view hg hp hin with
    ⟨-, hphase, -, -⟩ | ⟨-, hphase, -⟩ | ⟨hend, hgone, hroster, heffects⟩
  · rw [hnone] at hphase
    cases hphase
  · rw [hnone] at hphase
    cases hphase
  · rw [hended, Option.some.injEq, Call.ended.injEq] at hgone
    subst hgone
    exact ⟨_, hend, hroster, heffects⟩

theorem Step.grows (h : Step s a t effects) : s.calls.length ≤ t.calls.length := by
  have hset : ∀ i c, s.calls.length ≤ (s.calls.set i c).length :=
    fun i c => Nat.le_of_eq List.length_set.symm
  cases h with
  | elsewhere h => exact h.apart.grows
  | approached _ => exact hset _ _
  | stopMoved _ _ => exact hset _ _
  | @stopEnded call _ _ _ o _ _ =>
      rw [finishStop_eq]
      dsimp only
      cases s.turnstile.waiting.head? with
      | none => exact hset _ _
      | some next =>
          dsimp only
          rw [List.length_set]
          exact hset _ _

theorem Step.stopPhase?_eq_none (hg : s.Gated) (h : Step s a t effects)
    (hlt : call < s.calls.length) (hnone : s.stopPhase? call = none) :
    t.stopPhase? call = none := by
  -- A call that is no stop is not the one that takes a step as a stop.
  have hne : ∀ other p, s.stopPhase? other = some p → call ≠ other := by
    rintro other p hp rfl
    rw [hnone] at hp
    cases hp
  cases h with
  | elsewhere h =>
      cases hp : t.stopPhase? call with
      | none => rfl
      | some p =>
          -- A stop that comes up elsewhere is a new call.
          rcases h.apart.comes call p hp with hp | ⟨-, hnew⟩
          · rw [hnone] at hp
            cases hp
          · exact absurd hlt (Nat.not_lt.mpr (List.getElem?_eq_none_iff.mp hnew))
  | approached hp => rw [stopPhase?_setStop hp, if_neg (hne _ _ hp), hnone]
  | stopMoved hp _ => rw [stopPhase?_setStop hp, if_neg (hne _ _ hp), hnone]
  | stopEnded hp hend =>
      rw [hg.stopPhase?_finishStop hp hend.isInside, if_neg (hne _ _ hp)]
      by_cases hhead : s.turnstile.waiting.head? = some call
      · -- Who is let in next waited as a stop.
        exact absurd rfl (hne _ _ ((hg.queued call).mp (List.mem_of_head? hhead)))
      · rw [if_neg hhead, hnone]

end System

/-- The turnstile and the phases agree in every system that a service can come
    to. -/
theorem Reachable.gated {settings : Settings} {s : System ι} (hs : Reachable settings s) :
    s.Gated := by
  induction hs with
  | initial => exact .initial settings
  | act _ hact ih => exact ih.step (System.step_of_act hact)

end Steward
