import Steward.Service
import Mathlib.Data.List.Induction
import Mathlib.Data.List.Infix

/-!
# Runs of a Service

Runs of a service together with its subscribers, as they grow at their end.

`Service.run` takes the first action of a list, and then the others. What is
worth saying about a run is mostly said of its last moment: what was published
up to now, who was handed what, how much is left to do. So a run is taken apart
at its end here, and `run_induction` goes along it in this way. It keeps at hand
that the actions taken so far are the beginning of the whole run, because some
hypotheses speak of every moment of it (`Always`).

None of this has anything to do with services. A service is one thing that takes
steps and shows effects, and a run of any such thing is `runOf` its step.

## Main definitions

* `runOf`: A sequence of steps of anything that takes steps.
* `Service.Always`: What holds at every moment of a run.

## Theorems

* `runOf_append_singleton`: A run is a run and a step.
* `runOf_induction`: Induction along a run.
* `Service.run_eq_runOf`: A run of a service is one of these.
* `Service.run_induction`: Induction along a run of a service.
-/

namespace Steward

variable {σ α ε ι : Type}

section RunOf

variable (act : σ → α → Option (σ × List ε))

/-- A sequence of steps, with everything that they show. -/
def runOf (s : σ) : List α → Option (σ × List ε)
  | [] => some (s, [])
  | a :: rest =>
    (act s a).bind fun now => (runOf now.1 rest).map fun later => (later.1, now.2 ++ later.2)

variable {act} {s t : σ} {effects : List ε}

theorem runOf_cons_eq_some {a : α} {rest : List α} :
    runOf act s (a :: rest) = some (t, effects) ↔ ∃ u now later,
      act s a = some (u, now) ∧ runOf act u rest = some (t, later) ∧ effects = now ++ later := by
  constructor
  · intro h
    rw [runOf, Option.bind_eq_some_iff] at h
    rcases h with ⟨⟨u, now⟩, hact, h⟩
    rw [Option.map_eq_some_iff] at h
    rcases h with ⟨⟨v, later⟩, hrest, h⟩
    rcases Prod.mk.inj h with ⟨rfl, rfl⟩
    exact ⟨u, now, later, hact, hrest, rfl⟩
  · rintro ⟨u, now, later, hact, hrest, rfl⟩
    simp only [runOf, hact, hrest, Option.bind_some, Option.map_some]

theorem runOf_append_singleton {before : List α} {a : α} :
    runOf act s (before ++ [a]) = some (t, effects) ↔ ∃ u shown now,
      runOf act s before = some (u, shown) ∧ act u a = some (t, now) ∧
        effects = shown ++ now := by
  -- The run takes actions off the front, so the induction is on the actions before the last one.
  induction before generalizing s effects with
  | nil =>
      rw [List.nil_append, runOf_cons_eq_some]
      constructor
      · rintro ⟨u, now, later, hact, hnil, rfl⟩
        rcases Prod.mk.inj (Option.some.inj hnil) with ⟨rfl, rfl⟩
        exact ⟨s, [], now, rfl, hact, List.append_nil now⟩
      · rintro ⟨u, shown, now, hnil, hact, rfl⟩
        rcases Prod.mk.inj (Option.some.inj hnil) with ⟨rfl, rfl⟩
        exact ⟨t, now, [], hact, rfl, (List.append_nil now).symm⟩
  | cons b rest ih =>
      rw [List.cons_append, runOf_cons_eq_some]
      constructor
      · rintro ⟨u, first, later, hfirst, hlater, rfl⟩
        rcases ih.mp hlater with ⟨v, shown, now, hrest, hact, rfl⟩
        exact ⟨v, first ++ shown, now, runOf_cons_eq_some.mpr ⟨u, first, shown, hfirst, hrest, rfl⟩,
          hact, (List.append_assoc first shown now).symm⟩
      · rintro ⟨v, shown, now, hbefore, hact, rfl⟩
        rcases runOf_cons_eq_some.mp hbefore with ⟨u, first, later, hfirst, hlater, rfl⟩
        exact ⟨u, first, later ++ now, hfirst, ih.mpr ⟨v, later, now, hlater, hact, rfl⟩,
          List.append_assoc first later now⟩

/-- A run and a run from where it has led. -/
theorem runOf_append {before actions : List α} {u : σ} {shown later : List ε}
    (hbefore : runOf act s before = some (u, shown))
    (hactions : runOf act u actions = some (t, later)) :
    runOf act s (before ++ actions) = some (t, shown ++ later) := by
  induction before generalizing s shown with
  | nil =>
      rcases Prod.mk.inj (Option.some.inj hbefore) with ⟨rfl, rfl⟩
      exact hactions
  | cons a rest ih =>
      rcases runOf_cons_eq_some.mp hbefore with ⟨v, now, more, hact, hrest, rfl⟩
      rw [List.append_assoc]
      exact runOf_cons_eq_some.mpr ⟨v, now, more ++ later, hact, ih hrest, rfl⟩

/-- Induction along a run, at its end. The actions taken so far are known to be the
    beginning of it. -/
theorem runOf_induction {actions : List α} (P : List α → σ → List ε → Prop) (hnil : P [] s [])
    (hstep : ∀ before u shown a v now, before ++ [a] <+: actions →
      runOf act s before = some (u, shown) → P before u shown → act u a = some (v, now) →
      P (before ++ [a]) v (shown ++ now))
    (h : runOf act s actions = some (t, effects)) : P actions t effects := by
  induction actions using List.reverseRecOn generalizing t effects with
  | nil =>
      rcases Prod.mk.inj (Option.some.inj h) with ⟨rfl, rfl⟩
      exact hnil
  | append_singleton before a ih =>
      rcases runOf_append_singleton.mp h with ⟨u, shown, now, hrun, hact, rfl⟩
      -- What is a prefix of the shorter run is one of the longer run too.
      have hu : P before u shown := by
        refine ih (fun before' u' shown' a' v now' hpre => ?_) hrun
        exact hstep before' u' shown' a' v now' (hpre.trans (List.prefix_append _ _))
      exact hstep before u shown a t now (List.prefix_refl _) hrun hu hact

end RunOf

namespace Service

variable {s t : Service ι} {actions before : List (ServiceAction ι)}
  {effects : List (ServiceEffect ι)} {P : Service ι → List (ServiceEffect ι) → Prop}

theorem run_eq_runOf (s : Service ι) (actions : List (ServiceAction ι)) :
    s.run actions = runOf act s actions := by
  induction actions generalizing s with
  | nil => rfl
  | cons a rest ih =>
      rw [run, runOf]
      congr 1
      funext now
      rw [ih]

theorem run_append {u : Service ι} {shown later : List (ServiceEffect ι)}
    (hbefore : s.run before = some (u, shown)) (hactions : u.run actions = some (t, later)) :
    s.run (before ++ actions) = some (t, shown ++ later) := by
  rw [run_eq_runOf] at hbefore hactions ⊢
  exact runOf_append hbefore hactions

theorem run_cons {u : Service ι} {a : ServiceAction ι} {now later : List (ServiceEffect ι)}
    (hact : s.act a = some (u, now)) (hactions : u.run actions = some (t, later)) :
    s.run (a :: actions) = some (t, now ++ later) := by
  rw [run_eq_runOf] at hactions ⊢
  exact runOf_cons_eq_some.mpr ⟨u, now, later, hact, hactions, rfl⟩

theorem run_append_singleton {u : Service ι} {a : ServiceAction ι}
    {shown now : List (ServiceEffect ι)} (hbefore : s.run before = some (u, shown))
    (hact : u.act a = some (t, now)) : s.run (before ++ [a]) = some (t, shown ++ now) := by
  rw [run_eq_runOf] at hbefore ⊢
  exact runOf_append_singleton.mpr ⟨u, shown, now, hbefore, hact, rfl⟩

/-- What holds at every moment of a run, of the service then and of what was shown
    until then. -/
def Always (s : Service ι) (actions : List (ServiceAction ι))
    (P : Service ι → List (ServiceEffect ι) → Prop) : Prop :=
  ∀ before u shown, before <+: actions → s.run before = some (u, shown) → P u shown

theorem Always.mono (h : s.Always actions P) (hpre : before <+: actions) :
    s.Always before P :=
  fun first u shown hfirst => h first u shown (hfirst.trans hpre)

theorem Always.last (h : s.Always actions P) (hrun : s.run actions = some (t, effects)) :
    P t effects :=
  h actions t effects (List.prefix_refl actions) hrun

/-- The moments of a run are the ends of its beginnings. -/
theorem always_of_inits (h : ∀ before ∈ actions.inits, ∀ r ∈ s.run before, P r.1 r.2) :
    s.Always actions P :=
  fun before u shown hpre hrun => h before ((List.mem_inits before actions).mpr hpre) (u, shown) hrun

/-- Induction along a run of a service, at its end. -/
theorem run_induction (P : List (ServiceAction ι) → Service ι → List (ServiceEffect ι) → Prop)
    (hnil : P [] s [])
    (hstep : ∀ before u shown a v now, before ++ [a] <+: actions →
      s.run before = some (u, shown) → P before u shown → u.act a = some (v, now) →
      P (before ++ [a]) v (shown ++ now))
    (h : s.run actions = some (t, effects)) : P actions t effects := by
  rw [run_eq_runOf] at h
  refine runOf_induction P hnil (fun before u shown a v now hpre hrun => ?_) h
  rw [← run_eq_runOf] at hrun
  exact hstep before u shown a v now hpre hrun

end Service

end Steward
