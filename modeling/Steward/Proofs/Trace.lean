import Steward.Lifecycle
import Mathlib.Data.List.Induction

/-!
# Runs Taken Apart

Runs as what an observer sees of them, and the induction that goes with it.

`System.run` gathers the effects of a sequence of actions, and an effect does
not say which call it belongs to or what the system looked like when it showed.
Most of what is worth saying about a run needs one of the two: which attaches
were accepted, which stop closed a dependency, in which order closings ended.
`observe` takes a function of a single step and collects what it finds along a
run, so each of these is a short definition about one step.

A run grows at its end, and so does what was observed of it. `run_induction` is
the induction along a run that follows this: it relates the actions taken so far
to the system they have led to, and `observe_append_singleton` says what one
more action adds. An invariant about a run is then a step lemma and nothing
more.

## Main definitions

* `System.observe`: What an observer of single steps collects along a run.

## Theorems

* `run_cons_eq_some`: A run is a step and a run.
* `run_append_singleton`: A run is a run and a step.
* `run_append_eq_some`: A run of a composed sequence passes through a middle.
* `observe_append`: What is observed of composed runs is composed.
* `observe_append_singleton`: One more action adds what is seen of its step.
* `run_induction`: Induction along a run.
* `reachable_iff_run`: What is reachable is what runs lead to.
-/

namespace Steward

variable {ι α : Type}

namespace System

/-- What an observer collects along a run, who sees of each step the system
    before it, the action, and what it shows. -/
def observe (look : System ι → Action ι → List (Effect ι) → List α) (s : System ι) :
    List (Action ι) → List α
  | [] => []
  | a :: rest =>
    match s.act a with
    | none => []
    | some (t, effects) => look s a effects ++ t.observe look rest

/-- A run of at least one action is its first step and a run from there. -/
theorem run_cons_eq_some {s u : System ι} {a : Action ι} {rest : List (Action ι)}
    {effects : List (Effect ι)} :
    s.run (a :: rest) = some (u, effects) ↔ ∃ t now later,
      s.act a = some (t, now) ∧ t.run rest = some (u, later) ∧ effects = now ++ later := by
  constructor
  · intro h
    rw [run, Option.bind_eq_some_iff] at h
    rcases h with ⟨⟨t, now⟩, hact, h⟩
    rw [Option.map_eq_some_iff] at h
    rcases h with ⟨⟨v, later⟩, hrest, h⟩
    rcases Prod.mk.inj h with ⟨rfl, rfl⟩
    exact ⟨t, now, later, hact, hrest, rfl⟩
  · rintro ⟨t, now, later, hact, hrest, rfl⟩
    simp only [run, hact, hrest, Option.bind_some, Option.map_some]

/-- A run of a composed sequence passes through the end of its first part. -/
theorem run_append_eq_some {s u : System ι} {as bs : List (Action ι)}
    {effects : List (Effect ι)} :
    s.run (as ++ bs) = some (u, effects) ↔ ∃ t first second,
      s.run as = some (t, first) ∧ t.run bs = some (u, second) ∧ effects = first ++ second := by
  constructor
  · intro h
    rw [run_append, Option.bind_eq_some_iff] at h
    rcases h with ⟨⟨t, first⟩, has, h⟩
    rw [Option.map_eq_some_iff] at h
    rcases h with ⟨⟨v, second⟩, hbs, h⟩
    rcases Prod.mk.inj h with ⟨rfl, rfl⟩
    exact ⟨t, first, second, has, hbs, rfl⟩
  · rintro ⟨t, first, second, has, hbs, rfl⟩
    simp only [run_append, has, hbs, Option.bind_some, Option.map_some]

theorem run_singleton (s : System ι) (a : Action ι) : s.run [a] = s.act a := by
  rw [run]
  cases s.act a with
  | none => rfl
  | some now => simp only [run_nil, Option.bind_some, Option.map_some, List.append_nil]

theorem run_append_singleton {s u : System ι} {as : List (Action ι)} {a : Action ι}
    {effects : List (Effect ι)} :
    s.run (as ++ [a]) = some (u, effects) ↔ ∃ t first last,
      s.run as = some (t, first) ∧ t.act a = some (u, last) ∧ effects = first ++ last := by
  rw [run_append_eq_some]
  simp only [run_singleton]

section Observe

variable (look : System ι → Action ι → List (Effect ι) → List α)

theorem observe_cons {s t : System ι} {a : Action ι} {effects : List (Effect ι)}
    (h : s.act a = some (t, effects)) (rest : List (Action ι)) :
    s.observe look (a :: rest) = look s a effects ++ t.observe look rest := by
  rw [observe, h]

/-- What is observed of composed runs is composed. -/
theorem observe_append {s t : System ι} {as : List (Action ι)} {effects : List (Effect ι)}
    (h : s.run as = some (t, effects)) (bs : List (Action ι)) :
    s.observe look (as ++ bs) = s.observe look as ++ t.observe look bs := by
  induction as generalizing s effects with
  | nil =>
      rw [run_nil, Option.some.injEq, Prod.mk.injEq] at h
      rw [h.1]
      rfl
  | cons a rest ih =>
      -- The first action is seen from the same system in both runs.
      rcases run_cons_eq_some.mp h with ⟨u, now, later, hact, hrest, -⟩
      rw [List.cons_append, observe_cons look hact, observe_cons look hact, ih hrest,
        List.append_assoc]

/-- One more action adds what is seen of its step. -/
theorem observe_append_singleton {s t u : System ι} {as : List (Action ι)} {a : Action ι}
    {effects shown : List (Effect ι)} (h : s.run as = some (t, effects))
    (hact : t.act a = some (u, shown)) :
    s.observe look (as ++ [a]) = s.observe look as ++ look t a shown := by
  rw [observe_append look h, observe_cons look hact, observe, List.append_nil]

end Observe

/-- Induction along a run, at its end. What holds before anything has happened
    and is kept by one more action holds of the whole run. Actions that a
    hypothesis speaks of are known to belong to it. -/
theorem run_induction {s t : System ι} {as : List (Action ι)} {effects : List (Effect ι)}
    (P : List (Action ι) → System ι → Prop) (hnil : P [] s)
    (hstep : ∀ before u shown a v now, before ++ [a] <+: as → s.run before = some (u, shown) →
      P before u → u.act a = some (v, now) → P (before ++ [a]) v)
    (h : s.run as = some (t, effects)) : P as t := by
  induction as using List.reverseRecOn generalizing t effects with
  | nil =>
      rw [run_nil, Option.some.injEq, Prod.mk.injEq] at h
      exact h.1 ▸ hnil
  | append_singleton before a ih =>
      rcases run_append_singleton.mp h with ⟨u, first, last, hrun, hact, -⟩
      -- What is a prefix of the shorter run is one of the longer run too.
      have hu : P before u := by
        refine ih (fun before' u' shown a' v now hpre => ?_) hrun
        exact hstep before' u' shown a' v now (hpre.trans (List.prefix_append _ _))
      exact hstep before u first a t last (List.prefix_refl _) hrun hu hact

end System

/-- What is reachable is what runs lead to. -/
theorem reachable_iff_run {settings : Settings} {s : System ι} :
    Reachable settings s ↔
      ∃ actions effects, (System.initial settings).run actions = some (s, effects) := by
  constructor
  · intro h
    induction h with
    | initial => exact ⟨[], [], rfl⟩
    | act _ hact ih =>
        rcases ih with ⟨actions, effects, hrun⟩
        exact ⟨actions ++ [_], effects ++ _,
          System.run_append_singleton.mpr ⟨_, _, _, hrun, hact, rfl⟩⟩
  · rintro ⟨actions, effects, hrun⟩
    exact Reachable.initial.run hrun

end Steward
