import Steward.Proofs.Snapshot

/-!
# A Stop Comes to Its End

That a stop which has passed the turnstile is never stuck.

`System.act` says what can happen and what it leads to; it does not say that
anything can. A stop would be stuck if no action of its own were possible and it
had not ended, and every stop after it would wait at the turnstile for good. That
is what has to be ruled out before it means anything that a stop reports the
right thing when it ends.

`StopPhase.remaining` counts the steps that are left, more or less: a task that
has not begun counts three, one that runs two, and what it leaves on the tray
one. What was put aside counts two, because it has to come back first. So every
step of a stop but giving way brings the count down (`StopMove.remaining_lt`),
and as long as it has not ended there is such a step (`exists_action`), whatever
its participants do. `exists_run_ended` puts the two together.

## Main definitions

* `Behaviour`: What the participants of a stop do.
* `StopPhase.remaining`: How far a stop is from its end.

## Theorems

* `StopMove.remaining_lt`: A stop that goes on comes closer to its end.
* `exists_action`: A stop that has not ended can take a step.
* `exists_run_ended`: A stop that has passed the turnstile can be brought to its
  end by its own steps, whatever its participants do.
-/

namespace Steward

variable {ι : Type}

/-- What the participants of a stop do: the server, and the dependencies by their
    places. The server does not panic when it is asked for its name. -/
structure Behaviour where
  serverName : String
  serverResult : Return
  name : Nat → Attempt String
  result : Nat → Return

/-- Whether what an action brings from the participants of a stop is what they
    do. -/
def Behaviour.Allows (b : Behaviour) : Action ι → Prop
  | .nameForStop _ answer => answer = .ok b.serverName
  | .endDraining _ result => result = b.serverResult
  | .runClose _ place answer => answer = b.name place
  | .endClose _ place result => result = b.result place
  | _ => True

/-- Whether a call gives way in an action. -/
def Action.givesWay : Action ι → Bool
  | .setAside _ => true
  | _ => false

/-- What is left of a task. -/
def Task.remaining (task : Task ι) : Nat :=
  match task.state with
  | .spawned => 3
  | .running _ => 2
  | .finished => 0

/-- What is left of all tasks. -/
def remainingOf : List (Task ι) → Nat
  | [] => 0
  | task :: rest => task.remaining + remainingOf rest

/-- What is left of what is on a tray. -/
def Tray.remaining {α : Type} (tray : Tray α) : Nat :=
  tray.ended.length + 2 * tray.aside.length

theorem Tray.remaining_take {α : Type} {tray rest : Tray α} {a : α}
    (h : tray.take? = some (a, rest)) : rest.remaining < tray.remaining := by
  rcases tray with ⟨ended, aside⟩
  cases ended with
  | nil => cases h
  | cons first ended =>
      rcases Prod.mk.inj (Option.some.inj h) with ⟨-, rfl⟩
      simp only [remaining, List.length_cons]
      omega

/-- What comes back counts less on a tray than it did aside. -/
theorem Tray.remaining_bringBack {α : Type} {tray rest : Tray α}
    (h : tray.bringBack? = some rest) : rest.remaining < tray.remaining := by
  rcases tray with ⟨ended, aside⟩
  cases aside with
  | nil => cases h
  | cons last aside =>
      rcases Option.some.inj h with rfl
      simp only [remaining, add, List.length_append, List.length_cons, List.length_nil]
      omega

/-- How far a stop that has passed the turnstile is from its end. `n` is the number
    of dependencies that it sees when it is accepted. -/
def StopPhase.remaining (n : Nat) : StopPhase ι → Nat
  | .arriving | .queued | .entering => 3 * n + 8
  | .admitted _ deps => 3 * deps.length + 7
  | .announced _ deps => 3 * deps.length + 6
  | .draining _ _ deps => 3 * deps.length + 5
  | .drained _ _ deps => 3 * deps.length + 4
  | .spawning deps _ => 3 * deps.length + 3
  | .closing tasks tray _ => remainingOf tasks + tray.remaining + 2
  | .succeeded => 1
  | .marked => 0

namespace System

variable {s t : System ι} {call : Nat} {effects : List (Effect ι)} {p q : StopPhase ι}
  {a : Action ι} {o : Outcome}

theorem remainingOf_of_spawned {tasks : List (Task ι)}
    (h : ∀ task ∈ tasks, task.state = .spawned) : remainingOf tasks = 3 * tasks.length := by
  induction tasks with
  | nil => rfl
  | cons first rest ih =>
      have hfirst : first.remaining = 3 := by
        rw [Task.remaining, h first List.mem_cons_self]
      have hrest := ih fun task htask => h task (List.mem_cons_of_mem first htask)
      rw [remainingOf, hfirst, hrest, List.length_cons]
      omega

theorem remainingOf_newTasks (s : System ι) (who : List ι) :
    remainingOf (s.newTasks who) = 3 * who.length := by
  rw [remainingOf_of_spawned, length_newTasks]
  intro task htask
  rcases List.mem_map.mp htask with ⟨entry, -, rfl⟩
  rfl

theorem remainingOf_set {tasks : List (Task ι)} {place : Nat} {old : Task ι}
    (h : tasks[place]? = some old) (new : Task ι) :
    remainingOf (tasks.set place new) + old.remaining =
      remainingOf tasks + new.remaining := by
  induction tasks generalizing place with
  | nil => cases h
  | cons first rest ih =>
      cases place with
      | zero =>
          cases h
          rw [List.set_cons_zero, remainingOf, remainingOf]
          omega
      | succ place =>
          have hrest := @ih place h
          rw [List.set_cons_succ, remainingOf, remainingOf]
          omega

/-- A stop that goes on comes closer to its end, unless it gives way. -/
theorem StopMove.remaining_lt (h : StopMove s call p a effects q) (ha : a.givesWay = false) :
    q.remaining s.roster.dependencies.length < p.remaining s.roster.dependencies.length := by
  cases h with
  | accept haccept =>
      -- From here on the number of closings is known.
      have hdeps := (Roster.isOpen_of_admitStop haccept).2.2
      simp only [StopPhase.remaining]
      rw [hdeps]
      omega
  | announce | pass | ask | drained | report =>
      simp only [StopPhase.remaining]
      omega
  | spawn =>
      simp only [StopPhase.remaining, remainingOf_newTasks, Tray.remaining, List.length_nil]
      omega
  | @close _ _ _ _ number who name htask =>
      -- A task stands for three steps: to begin, to end, and to be looked at.
      have hsum := remainingOf_set htask ⟨number, who, .running name⟩
      simp only [StopPhase.remaining, Task.remaining] at hsum ⊢
      omega
  | @died _ tray _ _ number who panic htask =>
      have hsum := remainingOf_set htask ⟨number, who, .finished⟩
      simp only [StopPhase.remaining, Task.remaining, Tray.remaining, Tray.add,
        List.length_append, List.length_singleton] at hsum ⊢
      omega
  | @closed _ tray _ _ number who name result htask =>
      have hsum := remainingOf_set htask ⟨number, who, .finished⟩
      simp only [StopPhase.remaining, Task.remaining, Tray.remaining, Tray.add,
        List.length_append, List.length_singleton] at hsum ⊢
      omega
  | @take tasks tray rest causes closing htake =>
      -- What is on the tray is one step each, and what was put aside one more.
      have htray := Tray.remaining_take htake
      simp only [StopPhase.remaining]
      omega
  | setAside _ => cases ha
  | @bringBack tasks tray rest causes hrest =>
      have htray := Tray.remaining_bringBack hrest
      simp only [StopPhase.remaining]
      omega
  | succeed _ _ | mark =>
      simp only [StopPhase.remaining]
      omega

/-- A stop that looks at its closings can look at one, take one back, wait for a
    dependency, or conclude. -/
theorem exists_action_of_closing {tasks : List (Task ι)} {tray : Tray Closing}
    {causes : List Cause} (hp : s.stopPhase? call = some (.closing tasks tray causes))
    (b : Behaviour) : ∃ a : Action ι, a.call? = some call ∧ b.Allows a ∧ a.givesWay = false ∧
      (s.act a).isSome = true := by
  rcases tray with ⟨ended, aside⟩
  cases ended with
  | cons first ended =>
      refine ⟨.joinClose call, rfl, trivial, rfl, ?_⟩
      simp only [act, System.joinClose, hp, Tray.take?]
      cases first <;> rfl
  | nil =>
  -- Nothing can be looked at, but something may have been put aside.
  cases aside with
  | cons last aside =>
      refine ⟨.bringBack call, rfl, trivial, rfl, ?_⟩
      simp only [act, System.bringBack, stopPhase?_eq_some.mp hp, Tray.bringBack?,
        Option.map_some, Option.isSome_some]
  | nil =>
  by_cases hall : tasks.all (·.state = .finished) = true
  · refine ⟨.concludeStop call, rfl, trivial, rfl, ?_⟩
    simp only [act, System.concludeStop, hp, Tray.isEmpty, List.isEmpty_nil, Bool.and_true,
      hall, if_true]
    cases causes <;> rfl
  · -- Some dependency has not been closed yet, and it is its turn.
    rw [List.all_eq_true] at hall
    push Not at hall
    rcases hall with ⟨⟨number, who, state⟩, hmem, hstate⟩
    rcases List.getElem?_of_mem hmem with ⟨place, htask⟩
    cases state with
    | spawned =>
        refine ⟨.runClose call place (b.name place), rfl, rfl, rfl, ?_⟩
        simp only [act, System.runClose, hp, htask]
        cases b.name place <;> rfl
    | running name =>
        refine ⟨.endClose call place (b.result place), rfl, rfl, rfl, ?_⟩
        simp only [act, System.endClose, hp, htask, Option.isSome_some]
    | finished => exact absurd (decide_eq_true rfl) hstate

/-- A stop that has passed the turnstile can take a step, whatever its
    participants do. -/
theorem exists_action (hp : s.stopPhase? call = some p) (hin : p.isInside = true)
    (b : Behaviour) : ∃ a : Action ι, a.call? = some call ∧ b.Allows a ∧ a.givesWay = false ∧
      (s.act a).isSome = true := by
  -- In each phase one action is due, and the behaviour says what a participant answers.
  cases p with
  | arriving | queued => cases hin
  | entering =>
      refine ⟨.enterStop call, rfl, trivial, rfl, ?_⟩
      simp only [act, System.enterStop, hp]
      cases s.roster.admitStop <;> rfl
  | admitted server deps =>
      refine ⟨.announceStop call, rfl, trivial, rfl, ?_⟩
      simp only [act, System.announceStop, hp, Option.isSome_some]
  | announced server deps =>
      refine ⟨.nameForStop call (.ok b.serverName), rfl, rfl, rfl, ?_⟩
      cases server <;> simp only [act, System.nameForStop, hp, Option.isSome_some]
  | draining server name deps =>
      refine ⟨.endDraining call b.serverResult, rfl, rfl, rfl, ?_⟩
      simp only [act, System.endDraining, hp, Option.isSome_some]
  | drained name result deps =>
      refine ⟨.reportServer call, rfl, trivial, rfl, ?_⟩
      simp only [act, System.reportServer, hp, Option.isSome_some]
  | spawning deps causes =>
      refine ⟨.spawnCloses call, rfl, trivial, rfl, ?_⟩
      simp only [act, System.spawnCloses, hp, Option.isSome_some]
  | closing tasks tray causes => exact exists_action_of_closing hp b
  | succeeded =>
      refine ⟨.markStopped call, rfl, trivial, rfl, ?_⟩
      simp only [act, System.markStopped, hp, Option.isSome_some]
  | marked =>
      refine ⟨.announceStopped call, rfl, trivial, rfl, ?_⟩
      simp only [act, System.announceStopped, hp, Option.isSome_some]

/-- A stop that has passed the turnstile can be brought to its end by its own
    steps, whatever its participants do. -/
theorem exists_run_ended {settings : Settings} (hs : Reachable settings s)
    (hp : s.stopPhase? call = some p) (hin : p.isInside = true) (b : Behaviour) :
    ∃ more t effects o, (∀ a ∈ more, a.call? = some call ∧ b.Allows a) ∧
      s.run more = some (t, effects) ∧ t.calls[call]? = some (.ended o) := by
  -- The induction is on what remains of the stop.
  induction hn : p.remaining s.roster.dependencies.length using Nat.strongRecOn
      generalizing s p with
  | ind n ih =>
      rcases exists_action hp hin b with ⟨a, hcaller, hallows, hstays, hsome⟩
      rcases Option.isSome_iff_exists.mp hsome with ⟨⟨t, now⟩, hact⟩
      rcases (step_of_act hact).view hs.gated hp hin with
        ⟨hother, -, -, -⟩ | ⟨hmove, hphase, hroster⟩ | ⟨hend, hgone, -, -⟩
      · exact absurd hcaller hother
      · have hlt := hmove.remaining_lt hstays
        -- The measure looks at the roster, which keeps its dependencies.
        have hdeps : t.roster.dependencies = s.roster.dependencies := by
          rw [hroster]
          cases p <;> rfl
        rw [hn] at hlt
        rcases ih _ hlt (hs.act hact) hphase hmove.isInside.2 (by rw [hdeps]) with
          ⟨more, v, later, o, hmore, hrun, hended⟩
        refine ⟨a :: more, v, now ++ later, o, fun a' ha' => ?_, ?_, hended⟩
        · rcases List.mem_cons.mp ha' with rfl | ha'
          · exact ⟨hcaller, hallows⟩
          · exact hmore a' ha'
        · exact run_cons_eq_some.mpr ⟨t, now, later, hact, hrun, rfl⟩
      · refine ⟨[a], t, now, _, fun a' ha' => ?_, ?_, hgone⟩
        · rw [List.mem_singleton.mp ha']
          exact ⟨hcaller, hallows⟩
        · rw [run_singleton, hact]

end System

end Steward
