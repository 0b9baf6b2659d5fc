import Steward.Proofs.Answers
import Steward.Proofs.Record
import Steward.Proofs.Trial
import Mathlib.Data.List.Nodup

/-!
# Stand-ins Round by Round

What stand-ins have to say to one stop after so many others.

A stand-in that was told to fail so many times knows only how many failures are left, and
the same stand-in looked at later is another one. Here they are told by how often they
were asked, from the one they were at first: `StandIn.after` is where asking has brought
one of them, `worked` where it has brought all. Stopping the server counts by itself, and
closing counts by rounds, for in every stop that goes through each dependency is closed
once. In the midst of a round some are ahead of the others.

What a round brings to light is fixed by its number alone. `complaints` are the causes
that it ends with, and there are some exactly as long as there is one that still fails.

## Main definitions

* `StandIn.after`: A stand-in that was asked so often.
* `complaints`: What is to be heard in a round.
* `mostFailures`: How many rounds fail.
* `worked`: All stand-ins in the midst of a round.

## Theorems

* `blame_stopResult`, `blame_closeResult`: What a stand-in says when it is asked.
* `length_complaints`: How many complaints there are.
* `complaints_eq_nil_iff`: After so many rounds there are none.
* `heed_stop`, `heed_close`: One more is done.
* `foldl_heed_of_quiet`: Nothing else counts.
-/

namespace Steward

variable {ι : Type}

namespace Rehearsal

namespace StandIn

variable {s : StandIn} {name : String} {stops closes : Nat}

/-- A stand-in that was stopped and closed so many times. -/
def after (s : StandIn) (stops closes : Nat) : StandIn :=
  { s with
    stops := s.stops + stops
    stopFailures := s.stopFailures - stops
    closes := s.closes + closes
    closeFailures := s.closeFailures - closes }

/-- What is to be heard of a stand-in that is stopped once more after so many times. -/
def stopComplaint (s : StandIn) (times : Nat) : List Cause :=
  if times < s.stopFailures then [.plain (s.name ++ " refused to stop")] else []

/-- What is to be heard of a stand-in that is closed once more after so many times. -/
def closeComplaint (s : StandIn) (times : Nat) : List Cause :=
  if times < s.closeFailures then [.plain (s.name ++ " connection reset")] else []

theorem stop_after : (s.after stops closes).stop = s.after (stops + 1) closes := by
  simp only [after, stop, Nat.add_assoc, Nat.sub_sub]

theorem close_after : (s.after stops closes).close = s.after stops (closes + 1) := by
  simp only [after, close, Nat.add_assoc, Nat.sub_sub]

theorem blame_failing (name error : String) (left : Nat) :
    blame name (failing left error) = if 0 < left then [.plain error] else [] := by
  rw [failing]
  split <;> rfl

theorem blame_stopResult (s : StandIn) (name : String) (stops closes : Nat) :
    blame name (s.after stops closes).stopResult = s.stopComplaint stops := by
  rw [stopResult, blame_failing, stopComplaint]
  simp only [after, Nat.sub_pos_iff_lt]

theorem blame_closeResult (s : StandIn) (name : String) (stops closes : Nat) :
    blame name (s.after stops closes).closeResult = s.closeComplaint closes := by
  rw [closeResult, blame_failing, closeComplaint]
  simp only [after, Nat.sub_pos_iff_lt]

end StandIn

section Rounds

variable (cast : ι → StandIn) (server : ι) (deps : List ι)

/-- What is to be heard of all in a stop after so many others. -/
def complaints (times : Nat) : List Cause :=
  (cast server).stopComplaint times ++ deps.flatMap fun d => (cast d).closeComplaint times

/-- How many stops fail: as many as the one that fails most often makes fail. -/
def mostFailures : Nat :=
  (deps.map fun d => (cast d).closeFailures).foldl max (cast server).stopFailures

theorem length_complaints (times : Nat) : (complaints cast server deps times).length =
    (if times < (cast server).stopFailures then 1 else 0) +
      deps.countP fun d => times < (cast d).closeFailures := by
  have hserver : ((cast server).stopComplaint times).length =
      if times < (cast server).stopFailures then 1 else 0 := by
    rw [StandIn.stopComplaint]
    split <;> rfl
  -- Each dependency has one thing to say, or none.
  have hdeps : (deps.flatMap fun d => (cast d).closeComplaint times).length =
      deps.countP fun d => times < (cast d).closeFailures := by
    induction deps with
    | nil => rfl
    | cons d rest ih =>
        rw [List.flatMap_cons, List.length_append, ih, List.countP_cons, StandIn.closeComplaint,
          Nat.add_comm]
        by_cases hfails : times < (cast d).closeFailures
        · rw [if_pos hfails, if_pos (decide_eq_true hfails)]
          rfl
        · rw [if_neg hfails, if_neg (by rw [decide_eq_true_eq]; exact hfails)]
          rfl
  rw [complaints, List.length_append, hserver, hdeps]

/-- Nothing is to be heard exactly when enough stops have failed before. -/
theorem complaints_eq_nil_iff (times : Nat) :
    complaints cast server deps times = [] ↔ mostFailures cast server deps ≤ times := by
  rw [mostFailures, ← Nat.lt_succ_iff, foldl_max_lt_iff, List.forall_mem_map, complaints,
    List.append_eq_nil_iff, List.flatMap_eq_nil_iff]
  -- One of them has nothing to say when its failures are used up.
  have hiff : ∀ {error : String} {left : Nat},
      (if times < left then [Cause.plain error] else []) = [] ↔ left < times.succ := by
    intro error left
    rw [Nat.lt_succ_iff, ← Nat.not_lt]
    split
    · rename_i hlt
      exact ⟨nofun, fun h => absurd hlt h⟩
    · rename_i hge
      exact ⟨fun _ => hge, fun _ => rfl⟩
  simp only [StandIn.stopComplaint, StandIn.closeComplaint, hiff]

variable [DecidableEq ι]

/-- The stand-ins after the server was stopped so many times, and the dependencies were
    closed for so many rounds and some once more. -/
def worked (stops rounds : Nat) (ended : List ι) : ι → StandIn := fun who =>
  (cast who).after (if who = server then stops else 0)
    (rounds * deps.count who + ended.count who)

variable {cast server deps} {stops rounds : Nat} {ended ended' : List ι} {who : ι}

theorem worked_zero : worked cast server deps 0 0 [] = cast := by
  funext who
  simp only [worked, ite_self, Nat.zero_mul, List.count_nil, Nat.add_zero]
  -- Nothing was taken from what the stand-in has to do, and nothing counted.
  rfl

/-- A dependency is closed once in every round. -/
theorem worked_round :
    worked cast server deps stops rounds deps = worked cast server deps stops (rounds + 1) [] := by
  funext who
  simp only [worked, Nat.add_mul, Nat.one_mul, List.count_nil, Nat.add_zero]

theorem stops_worked : (worked cast server deps stops rounds ended server).stops =
    (cast server).stops + stops := by
  rw [worked, if_pos rfl, StandIn.after]

theorem closes_worked (hdeps : deps.Nodup) (hwho : who ∈ deps) :
    (worked cast server deps stops rounds [] who).closes = (cast who).closes + rounds := by
  rw [worked, StandIn.after, List.count_eq_one_of_mem hdeps hwho, List.count_nil, Nat.mul_one,
    Nat.add_zero]

theorem causeOf_stopResult (name : String) :
    System.causeOf (guarded name (worked cast server deps stops rounds ended server).stopResult) =
      (cast server).stopComplaint stops := by
  rw [causeOf_guarded, worked, if_pos rfl, StandIn.blame_stopResult]

/-- Whoever is there once was closed once in every round before. -/
theorem causeOf_closeResult (hdeps : deps.Nodup) (hwho : who ∈ deps) (hnew : who ∉ ended)
    (name : String) :
    System.causeOf (guarded name (worked cast server deps stops rounds ended who).closeResult) =
      (cast who).closeComplaint rounds := by
  rw [causeOf_guarded, worked, StandIn.blame_closeResult, List.count_eq_one_of_mem hdeps hwho,
    List.count_eq_zero.mpr hnew, Nat.mul_one, Nat.add_zero]

theorem heed_stop : Trial.heed (worked cast server deps stops rounds ended)
    (.returned .stop server) = worked cast server deps (stops + 1) rounds ended := by
  funext who
  rw [Trial.heed]
  by_cases hwho : who = server
  · subst hwho
    simp only [Function.update_self, worked, if_true, StandIn.stop_after]
  · rw [Function.update_of_ne hwho]
    simp only [worked, if_neg hwho]

theorem heed_close (hended : ended'.Perm (who :: ended)) :
    Trial.heed (worked cast server deps stops rounds ended) (.returned .close who) =
      worked cast server deps stops rounds ended' := by
  funext other
  rw [Trial.heed]
  by_cases hother : other = who
  · subst hother
    simp only [Function.update_self, worked, StandIn.close_after, hended.count_eq,
      List.count_cons_self, Nat.add_assoc]
  · rw [Function.update_of_ne hother]
    simp only [worked, hended.count_eq, List.count_cons_of_ne (Ne.symm hother)]

theorem foldl_heed_of_quiet {now : ι → StandIn} {effects : List (Effect ι)}
    (h : ∀ e ∈ effects, e.isStopWork = false) : effects.foldl Trial.heed now = now := by
  induction effects with
  | nil => rfl
  | cons e rest ih =>
      have hhead : Trial.heed now e = now := by
        have hquiet := h e List.mem_cons_self
        cases e with
        | returned method who => cases method <;> first | rfl | cases hquiet
        | _ => rfl
      rw [List.foldl_cons, hhead]
      exact ih fun e' he' => h e' (List.mem_cons_of_mem e he')

end Rounds

end Rehearsal

end Steward
