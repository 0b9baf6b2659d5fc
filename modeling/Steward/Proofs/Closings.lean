import Steward.Proofs.Snapshot
import Mathlib.Data.List.Perm.Subperm

/-!
# Closings That Overlap

What is seen of the closings of one stop, and that it agrees with its tasks.

All dependencies are closed at once, so what an observer sees of it is a shuffle:
every dependency is asked to close and is done with it, and between the two
anything may happen to the others. There is no order to state it in but the one
of a task, which asks first. `Closings` says this of a list of marks without
mentioning tasks. It counts, for a dependency may be there twice: whoever was
asked makes up one list, whoever is done another, and at every moment the second
is among the first.

On the other side are the tasks of the stop, of which some have asked and some
have ended. A task goes from one state to the next at its place, which moves one
participant from list to list, so `begunOf` and `endedOf` follow the marks
exactly. When all tasks have ended, both are the whole list.

## Main definitions

* `StopMark`: What an observer of stops notes down.
* `invokedIn`, `returnedIn`: Who was asked, and who is done.
* `Closings`: Marks of closings that overlap.
* `begunOf`, `endedOf`: The tasks that have asked, and those that have ended.

## Theorems

* `exists_append_of_getElem?`: A list taken apart at a place.
* `endedOf_sublist`: What has ended has begun.
* `Closings.invoked`, `Closings.returned`: Another closing begins or ends.
* `Closings.of_run`, `Closings.of_end`: The marks follow the tasks.
* `Closings.of_finished`: In the end all were closed.
-/

namespace Steward

variable {ι : Type}

/-- What an observer of stops notes down. -/
inductive StopMark (ι : Type) where
  /-- A stop is accepted. -/
  | admitted (call : Nat)
  /-- A participant is asked to stop or to close. -/
  | invoked (method : Method) (who : ι)
  /-- It is done with it, or has panicked. -/
  | returned (method : Method) (who : ι)
  /-- A stop has ended. -/
  | ended (call : Nat) (outcome : Outcome)

/-- Who was asked. -/
def invokedIn (marks : List (StopMark ι)) : List ι :=
  marks.filterMap fun
    | .invoked _ who => some who
    | _ => none

/-- Who is done. -/
def returnedIn (marks : List (StopMark ι)) : List ι :=
  marks.filterMap fun
    | .returned _ who => some who
    | _ => none

/-- Marks of closings that overlap, where so many have begun and so many have
    ended. -/
structure Closings (begun ended : List ι) (marks : List (StopMark ι)) : Prop where
  only : ∀ m ∈ marks, ∃ who, m = .invoked .close who ∨ m = .returned .close who
  begun : (invokedIn marks).Perm begun
  ended : (returnedIn marks).Perm ended
  /-- Nobody is ever done more often than asked. -/
  ordered : ∀ before, before <+: marks → (returnedIn before).Subperm (invokedIn before)

namespace Closings

variable {begun ended : List ι} {marks : List (StopMark ι)} {who : ι}

theorem nil : Closings ([] : List ι) [] [] := by
  refine ⟨nofun, List.Perm.refl [], List.Perm.refl [], fun before hbefore => ?_⟩
  rw [List.prefix_nil.mp hbefore]
  exact List.Subperm.refl []

theorem invoked (h : Closings begun ended marks) {begun' : List ι}
    (hbegun : begun'.Perm (who :: begun)) :
    Closings begun' ended (marks ++ [.invoked .close who]) := by
  have hinvoked : invokedIn (marks ++ [.invoked .close who]) = invokedIn marks ++ [who] := by
    rw [invokedIn, List.filterMap_append]
    rfl
  have hreturned : returnedIn (marks ++ [.invoked .close who]) = returnedIn marks := by
    rw [returnedIn, List.filterMap_append]
    exact List.append_nil _
  refine ⟨fun m hm => ?_, ?_, ?_, fun before hbefore => ?_⟩
  · rcases List.mem_append.mp hm with hm | hm
    · exact h.only m hm
    · exact ⟨who, Or.inl (List.mem_singleton.mp hm)⟩
  · rw [hinvoked]
    exact (List.perm_append_singleton who _).trans ((h.begun.cons who).trans hbegun.symm)
  · rw [hreturned]
    exact h.ended
  · -- At the end one more has been asked than before, and as many have ended.
    rcases List.prefix_concat_iff.mp hbefore with rfl | hbefore
    · rw [hinvoked, hreturned]
      exact (h.ordered marks (List.prefix_refl marks)).trans
        (List.sublist_append_left _ _).subperm
    · exact h.ordered before hbefore

/-- Another closing ends. It has begun, so with it there are still not more that
    have ended. -/
theorem returned (h : Closings begun ended marks) {ended' : List ι}
    (hended : ended'.Perm (who :: ended)) (hsub : ended'.Subperm begun) :
    Closings begun ended' (marks ++ [.returned .close who]) := by
  have hinvoked : invokedIn (marks ++ [.returned .close who]) = invokedIn marks := by
    rw [invokedIn, List.filterMap_append]
    exact List.append_nil _
  have hreturned : returnedIn (marks ++ [.returned .close who]) = returnedIn marks ++ [who] := by
    rw [returnedIn, List.filterMap_append]
    rfl
  -- Whoever is done is among those that have begun, the last one included.
  have hperm : (returnedIn marks ++ [who]).Perm ended' :=
    (List.perm_append_singleton who _).trans ((h.ended.cons who).trans hended.symm)
  refine ⟨fun m hm => ?_, ?_, ?_, fun before hbefore => ?_⟩
  · rcases List.mem_append.mp hm with hm | hm
    · exact h.only m hm
    · exact ⟨who, Or.inr (List.mem_singleton.mp hm)⟩
  · rw [hinvoked]
    exact h.begun
  · rw [hreturned]
    exact hperm
  · rcases List.prefix_concat_iff.mp hbefore with rfl | hbefore
    · rw [hinvoked, hreturned]
      exact (hperm.subperm.trans hsub).trans h.begun.symm.subperm
    · exact h.ordered before hbefore

end Closings

/-- A list taken apart at a place, which is where it is written to. -/
theorem exists_append_of_getElem? {α : Type} {l : List α} {i : Nat} {a : α}
    (h : l[i]? = some a) :
    ∃ front back, l = front ++ a :: back ∧ ∀ b, l.set i b = front ++ b :: back := by
  rcases List.getElem?_eq_some_iff.mp h with ⟨hlt, hget⟩
  -- Writing what is there already gives the list itself.
  have hset : ∀ b, l.set i b = l.take i ++ b :: l.drop (i + 1) := by
    intro b
    rw [List.set_eq_take_append_cons_drop, if_pos hlt]
  refine ⟨l.take i, l.drop (i + 1), ?_, hset⟩
  rw [← hset a, ← hget, List.set_getElem_self hlt]

/-- The participants whose tasks have asked them. -/
def begunOf (tasks : List (Task ι)) : List ι :=
  (tasks.filter (·.state ≠ .spawned)).map Task.who

/-- The participants whose tasks have ended. -/
def endedOf (tasks : List (Task ι)) : List ι :=
  (tasks.filter (·.state = .finished)).map Task.who

section Tasks

variable {tasks : List (Task ι)} {place number : Nat} {who : ι}

theorem endedOf_sublist (tasks : List (Task ι)) : (endedOf tasks).Sublist (begunOf tasks) := by
  refine (List.monotone_filter_right tasks fun task htask => ?_).map Task.who
  rw [decide_eq_true_eq] at htask ⊢
  rw [htask]
  exact TaskState.noConfusion

theorem begunOf_newTasks (s : System ι) (who : List ι) : begunOf (s.newTasks who) = [] := by
  rw [begunOf, List.map_eq_nil_iff, List.filter_eq_nil_iff]
  intro task htask
  rcases List.mem_map.mp htask with ⟨entry, -, rfl⟩
  simp only [ne_eq, not_true_eq_false, decide_false, Bool.false_eq_true, not_false_eq_true]

theorem endedOf_newTasks (s : System ι) (who : List ι) : endedOf (s.newTasks who) = [] := by
  have hsub := endedOf_sublist (s.newTasks who)
  rw [begunOf_newTasks] at hsub
  exact List.sublist_nil.mp hsub

theorem begunOf_of_finished (h : ∀ task ∈ tasks, task.state = .finished) :
    begunOf tasks = tasks.map Task.who := by
  rw [begunOf, List.filter_eq_self.mpr fun task htask => ?_]
  rw [h task htask]
  rfl

theorem endedOf_of_finished (h : ∀ task ∈ tasks, task.state = .finished) :
    endedOf tasks = tasks.map Task.who := by
  rw [endedOf, List.filter_eq_self.mpr fun task htask => ?_]
  rw [h task htask]
  rfl

theorem begunOf_set {new : TaskState} (h : tasks[place]? = some ⟨number, who, .spawned⟩)
    (hnew : new ≠ .spawned) :
    (begunOf (tasks.set place ⟨number, who, new⟩)).Perm (who :: begunOf tasks) := by
  rcases exists_append_of_getElem? h with ⟨front, back, htasks, hset⟩
  rw [hset, htasks]
  simp only [begunOf, List.filter_append, List.map_append, ne_eq, hnew,
    not_false_eq_true, decide_true, List.filter_cons_of_pos, List.map_cons, not_true_eq_false,
    decide_false, Bool.false_eq_true, List.filter_cons_of_neg]
  exact List.perm_middle

/-- A task that begins is one more that has begun, and no more have ended. -/
theorem begunOf_set_running (name : String) (h : tasks[place]? = some ⟨number, who, .spawned⟩) :
    (begunOf (tasks.set place ⟨number, who, .running name⟩)).Perm (who :: begunOf tasks) ∧
    endedOf (tasks.set place ⟨number, who, .running name⟩) = endedOf tasks := by
  refine ⟨begunOf_set h TaskState.noConfusion, ?_⟩
  rcases exists_append_of_getElem? h with ⟨front, back, htasks, hset⟩
  rw [hset, htasks]
  simp only [endedOf, List.filter_append, List.map_append, reduceCtorEq, decide_false,
    Bool.false_eq_true, not_false_eq_true, List.filter_cons_of_neg]

theorem endedOf_set_finished {old : TaskState} (h : tasks[place]? = some ⟨number, who, old⟩)
    (hold : old ≠ .finished) :
    (endedOf (tasks.set place ⟨number, who, .finished⟩)).Perm (who :: endedOf tasks) := by
  rcases exists_append_of_getElem? h with ⟨front, back, htasks, hset⟩
  rw [hset, htasks]
  simp only [endedOf, List.filter_append, List.map_append, hold, decide_false,
    Bool.false_eq_true, not_false_eq_true, List.filter_cons_of_neg, decide_true,
    List.filter_cons_of_pos, List.map_cons]
  exact List.perm_middle

/-- Where everybody is there once, nobody ends twice. -/
theorem notMem_endedOf {old : TaskState} (h : tasks[place]? = some ⟨number, who, old⟩)
    (hold : old ≠ .finished) (hnodup : (tasks.map Task.who).Nodup) : who ∉ endedOf tasks := by
  have hsub : (endedOf (tasks.set place ⟨number, who, .finished⟩)).Sublist
      (tasks.map Task.who) := by
    rw [← System.map_who_set h]
    exact List.filter_sublist.map Task.who
  have hcons := (endedOf_set_finished h hold).nodup_iff.mp (hnodup.sublist hsub)
  exact (List.nodup_cons.mp hcons).1

theorem begunOf_set_finished {name : String} (h : tasks[place]? = some ⟨number, who, .running name⟩) :
    begunOf (tasks.set place ⟨number, who, .finished⟩) = begunOf tasks := by
  rcases exists_append_of_getElem? h with ⟨front, back, htasks, hset⟩
  rw [hset, htasks]
  simp only [begunOf, List.filter_append, List.map_append, ne_eq, reduceCtorEq,
    not_false_eq_true, decide_true, List.filter_cons_of_pos, List.map_cons]

end Tasks

namespace Closings

variable {tasks : List (Task ι)} {marks : List (StopMark ι)} {place number : Nat} {who : ι}
  {name : String}

theorem of_run (h : Closings (begunOf tasks) (endedOf tasks) marks)
    (htask : tasks[place]? = some ⟨number, who, .spawned⟩) :
    Closings (begunOf (tasks.set place ⟨number, who, .running name⟩))
      (endedOf (tasks.set place ⟨number, who, .running name⟩))
      (marks ++ [.invoked .close who]) := by
  rcases begunOf_set_running name htask with ⟨hbegun, hended⟩
  rw [hended]
  exact h.invoked hbegun

theorem of_end (h : Closings (begunOf tasks) (endedOf tasks) marks)
    (htask : tasks[place]? = some ⟨number, who, .running name⟩) :
    Closings (begunOf (tasks.set place ⟨number, who, .finished⟩))
      (endedOf (tasks.set place ⟨number, who, .finished⟩))
      (marks ++ [.returned .close who]) := by
  have hbegun := begunOf_set_finished htask
  have hended := endedOf_set_finished htask TaskState.noConfusion
  have hsub : (endedOf (tasks.set place ⟨number, who, .finished⟩)).Subperm (begunOf tasks) := by
    rw [← hbegun]
    exact (endedOf_sublist _).subperm
  rw [hbegun]
  exact h.returned hended hsub

theorem of_finished (h : Closings (begunOf tasks) (endedOf tasks) marks)
    (htasks : ∀ task ∈ tasks, task.state = .finished) :
    Closings (tasks.map Task.who) (tasks.map Task.who) marks := by
  rw [begunOf_of_finished htasks, endedOf_of_finished htasks] at h
  exact h

end Closings

end Steward
