import Steward.Proofs.Chronicle

/-!
# Turns

Runs in which calls leave each other alone except where they wait, and what a call in
the middle of its turn still owes the log.

A call changes the roster in one step and publishes the event that belongs to it in
another. A program in which a call is only ever left where it waits takes the two in
one turn, and nobody sees what is between them. `Call.isMidway` are the phases that
nobody sees then. What runs beside the calls is not bound to turns: the tasks of
participants go on while a call is midway, and signals arrive.

In such a phase the roster is ahead of the log by one notice at most, and
`Call.owes` is this notice. With it the log is what it would be if events came about
together with what they tell of. While a call takes its turn all others owe nothing,
so what it owes is all that is owed (`owed_eq`).

## Main definitions

* `Call.isMidway`, `System.midway`: The calls that are in the middle of their turns.
* `System.interrupted`: The calls that a step breaks in on.
* `System.namesGiven`: Who is asked for its name in a step, and the answers.
* `Call.owes`, `System.owed`: The notices that are due in the same turn.

## Theorems

* `answer_of_offered`, `answer_of_nameForStart`, `answer_of_nameForStop`,
  `answer_of_runClose`: Participants that tell their names do so in each of these steps.
* `owed_eq_nil`: Between turns nothing is owed.
* `owed_set`, `owed_append`: What is owed when one call changes, or comes.
* `owed_eq`: In a turn only one call owes anything.
-/

namespace Steward

variable {ι : Type}

/-- Whether a call is between two steps that it takes in one turn. -/
def Call.isMidway : Call ι → Bool
  | .registering _ => true
  | .starting (.admitted _) | .starting (.named _ _) | .starting (.announced _ _) => true
  | .stopping (.admitted _ _) | .stopping (.announced _ _) | .stopping (.drained _ _ _)
  | .stopping (.spawning _ _) | .stopping .succeeded | .stopping .marked => true
  | _ => false

/-- Whether an action is no call's turn: the task of a participant goes on, or a signal
    arrives. -/
def Action.isBeside : Action ι → Bool
  | .runServer | .endServer _ | .hear _ | .runClose _ _ _ | .endClose _ _ _ | .runProbe _ _ _
  | .endProbe _ _ _ => true
  | _ => false

/-- The notice that a call owes the log of a service whose participants have these
    names, for what it has done to the roster. -/
def Call.owes (nameOf : ι → String) : Call ι → List Notice
  | .registering notice => lifecycleIn [notice]
  | .starting (.admitted server) => [startingNotice (nameOf server)]
  | .starting (.named _ name) => [startingNotice name]
  | .stopping .marked => [stoppedNotice]
  | _ => []

theorem Call.owes_of_not_midway {nameOf : ι → String} {c : Call ι} (h : c.isMidway = false) :
    c.owes nameOf = [] := by
  cases c with
  | registering _ => cases h
  | starting p =>
      cases p with
      | admitted _ | named _ _ | announced _ _ => cases h
      | entering | waiting _ _ => rfl
  | stopping p =>
      cases p with
      | marked => cases h
      | _ => rfl
  | checking _ | ended _ => rfl

namespace Roster

variable {r : Roster ι} {ask : Answers ι} {offered : Option ι} {announced : String}

/-- A server is announced by the name that it tells when it is asked again. -/
theorem answer_of_serve_accepted (h : (r.serve ask offered).1 = .accepted announced) :
    ∃ who, offered = some who ∧ ask 1 who = .ok announced := by
  unfold serve at h
  repeat' split at h
  all_goals simp_all

/-- And so is a dependency. -/
theorem answer_of_attach_accepted (h : (r.attach ask offered).1 = .accepted announced) :
    ∃ who, offered = some who ∧ ask 1 who = .ok announced := by
  unfold attach at h
  repeat' split at h
  all_goals simp_all

end Roster

namespace System

/-- The calls that are in the middle of their turns. -/
def midway (s : System ι) : List Nat :=
  (List.range s.calls.length).filter fun call => s.calls[call]?.any Call.isMidway

/-- The calls that a step breaks in on. -/
def interrupted (s : System ι) (a : Action ι) (_ : List (Effect ι)) : List Nat :=
  if a.isBeside then [] else s.midway.filter fun call => a.call? ≠ some call

/-- Who is asked for its name in a step, and the answers. Left out are those of whose
    answer nothing comes but the text of a refusal or of a report on health. -/
def namesGiven (s : System ι) (a : Action ι) (_ : List (Effect ι)) : List (ι × Attempt String) :=
  match a with
  | .serve ask offered | .attach ask offered =>
    offered.toList.flatMap fun who => [(who, ask 0 who), (who, ask 1 who)]
  | .nameForStart call answer =>
    match s.startPhase? call with
    | some (.admitted server) => [(server, answer)]
    | _ => []
  | .nameForStop call answer =>
    match s.stopPhase? call with
    | some (.announced server _) => server.toList.map fun who => (who, answer)
    | _ => []
  | .runClose call place answer =>
    match s.stopPhase? call with
    | some (.closing tasks _ _) => tasks[place]?.toList.map fun task => (task.who, answer)
    | _ => []
  | _ => []

/-- The notices that are owed to the log. -/
def owed (nameOf : ι → String) (s : System ι) : List Notice :=
  s.calls.flatMap (Call.owes nameOf)

variable {s t : System ι} {call : Nat} {a : Action ι} {effects : List (Effect ι)} {c c' : Call ι}
  {nameOf : ι → String}

section Names

variable {answer : Attempt String} {server who : ι} {deps : List ι} {tasks : List (Task ι)}
  {tray : Tray Closing} {causes : List Cause} {place number : Nat} {state : TaskState}

/-- Whoever is offered tells its name when it is asked again. -/
theorem answer_of_offered {ask : Answers ι}
    (hoffer : a = .serve ask (some who) ∨ a = .attach ask (some who))
    (hnames : ∀ e ∈ s.namesGiven a effects, e.2 = .ok (nameOf e.1)) :
    ask 1 who = .ok (nameOf who) := by
  have hmem : (who, ask 1 who) ∈ [(who, ask 0 who), (who, ask 1 who)] :=
    List.mem_cons_of_mem _ (List.mem_singleton.mpr rfl)
  rcases hoffer with rfl | rfl
  · exact hnames _ hmem
  · exact hnames _ hmem

theorem answer_of_nameForStart
    (hnames : ∀ e ∈ s.namesGiven (.nameForStart call answer) effects, e.2 = .ok (nameOf e.1))
    (hp : s.startPhase? call = some (.admitted server)) : answer = .ok (nameOf server) := by
  refine hnames (server, answer) ?_
  simp only [namesGiven, hp, List.mem_singleton]

theorem answer_of_nameForStop
    (hnames : ∀ e ∈ s.namesGiven (.nameForStop call answer) effects, e.2 = .ok (nameOf e.1))
    (hp : s.stopPhase? call = some (.announced (some server) deps)) :
    answer = .ok (nameOf server) := by
  refine hnames (server, answer) ?_
  simp only [namesGiven, hp, Option.toList_some, List.map_cons, List.map_nil, List.mem_singleton]

theorem answer_of_runClose
    (hnames : ∀ e ∈ s.namesGiven (.runClose call place answer) effects, e.2 = .ok (nameOf e.1))
    (hp : s.stopPhase? call = some (.closing tasks tray causes))
    (htask : tasks[place]? = some ⟨number, who, state⟩) : answer = .ok (nameOf who) := by
  refine hnames (who, answer) ?_
  simp only [namesGiven, hp, htask, Option.toList_some, List.map_cons, List.map_nil,
    List.mem_singleton]

end Names

theorem mem_midway : call ∈ s.midway ↔ ∃ c, s.calls[call]? = some c ∧ c.isMidway = true := by
  rw [midway, List.mem_filter, List.mem_range, Option.any_eq_true]
  constructor
  · exact fun h => h.2
  · rintro ⟨c, hc, hmidway⟩
    exact ⟨(List.getElem?_eq_some_iff.mp hc).1, c, hc, hmidway⟩

/-- The calls that a turn leaves where they are do not stand in the middle of their
    own. -/
theorem not_midway_of_other (hcalm : s.interrupted a effects = []) (hturn : a.isBeside = false)
    (hc : s.calls[call]? = some c) (hother : a.call? ≠ some call) : c.isMidway = false := by
  rw [interrupted, hturn, if_neg Bool.false_ne_true, List.filter_eq_nil_iff] at hcalm
  refine Bool.eq_false_iff.mpr fun hmidway => ?_
  exact hcalm call (mem_midway.mpr ⟨c, hc, hmidway⟩) (decide_eq_true hother)

/-- Between turns nothing is owed. -/
theorem owed_eq_nil (h : s.midway = []) : s.owed nameOf = [] := by
  rw [owed, List.flatMap_eq_nil_iff]
  intro c hc
  rcases List.getElem?_of_mem hc with ⟨call, hcall⟩
  refine Call.owes_of_not_midway (Bool.eq_false_iff.mpr fun hmidway => ?_)
  have hmem := mem_midway.mpr ⟨c, hcall, hmidway⟩
  rw [h] at hmem
  cases hmem

theorem owed_append (hcalls : t.calls = s.calls ++ [c]) :
    t.owed nameOf = s.owed nameOf ++ c.owes nameOf := by
  rw [owed, hcalls, List.flatMap_append, List.flatMap_singleton, owed]

/-- A call that goes on owing the same. -/
theorem owed_set (hc : s.calls[call]? = some c) (hcalls : t.calls = s.calls.set call c')
    (hsame : c'.owes nameOf = c.owes nameOf) : t.owed nameOf = s.owed nameOf := by
  rcases exists_append_of_getElem? hc with ⟨front, back, heq, hset⟩
  rw [owed, hcalls, hset, owed, heq, List.flatMap_append, List.flatMap_append, List.flatMap_cons,
    List.flatMap_cons, hsame]

/-- In a turn only one call owes anything, before and after each step of it. -/
theorem owed_eq (hcalm : s.interrupted a effects = []) (hturn : a.isBeside = false)
    (hown : a.call? = some call) (hc : s.calls[call]? = some c) :
    s.owed nameOf = c.owes nameOf ∧
      ∀ t : System ι, t.calls = s.calls.set call c' → t.owed nameOf = c'.owes nameOf := by
  rcases List.getElem?_eq_some_iff.mp hc with ⟨hlt, hget⟩
  -- Everything before and after the call is another one.
  have hsplit : ∀ b, s.calls.set call b = s.calls.take call ++ b :: s.calls.drop (call + 1) := by
    intro b
    rw [List.set_eq_take_append_cons_drop, if_pos hlt]
  have hnone : ∀ i b, s.calls[i]? = some b → i ≠ call → b.owes nameOf = [] := by
    intro i b hb hne
    refine Call.owes_of_not_midway (not_midway_of_other hcalm hturn hb fun hi => hne ?_)
    exact Option.some.inj (hi.symm.trans hown)
  have hfront : (s.calls.take call).flatMap (Call.owes nameOf) = [] := by
    rw [List.flatMap_eq_nil_iff]
    intro b hb
    rcases List.getElem?_of_mem hb with ⟨i, hi⟩
    rw [List.getElem?_take] at hi
    split at hi
    · exact hnone i b hi (by omega)
    · cases hi
  have hback : (s.calls.drop (call + 1)).flatMap (Call.owes nameOf) = [] := by
    rw [List.flatMap_eq_nil_iff]
    intro b hb
    rcases List.getElem?_of_mem hb with ⟨i, hi⟩
    rw [List.getElem?_drop] at hi
    exact hnone _ b hi (by omega)
  have hset : ∀ b : Call ι, (s.calls.set call b).flatMap (Call.owes nameOf) = b.owes nameOf := by
    intro b
    rw [hsplit, List.flatMap_append, List.flatMap_cons, hfront, hback, List.nil_append,
      List.append_nil]
  constructor
  · rw [owed, ← hset c, ← hget, List.set_getElem_self hlt]
  · intro t hcalls
    rw [owed, hcalls, hset]

end System

end Steward
