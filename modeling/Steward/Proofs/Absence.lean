import Steward.Proofs.Course
import Steward.Proofs.Renumber

/-!
# A Service Without One of Its Calls

What a service would be if one of the calls had not been made.

The calls after it have other numbers then (`closeUp`), and those that wait at the
turnstile do not wait for it. `System.without` is this service. It is made from the
service as it is, and every step of another call is a step of the service without the
call too, shows the same, and leads to the same service without it (`Step.without`).
This is so wherever the call has come to; what it does itself is another matter.

The service without a call can be ahead of the service as it is. If the call holds the
turnstile, the next in line is past it there. Whoever comes to the turnstile next, or
leaves it, has to find the same in both, and this is all that there is to a step of
another call besides what `StepElsewhere.carry` says of it.

## Main definitions

* `closeUp`, `makeRoom`: The numbers without a call, and back.
* `Turnstile.line`, `Turnstile.ofLine`: A turnstile as one line.
* `Turnstile.without`: The turnstile without a call.
* `System.promoted`: The calls, the next in line let through.
* `System.without`: The service without a call.

## Theorems

* `without_approached`, `without_finishStop`: Coming to the turnstile, and leaving it.
* `Step.without`: A step of another call is one without the call.
-/

namespace Steward

variable {ι : Type}

/-- The numbers close up when call `k` is gone. -/
def closeUp (k j : Nat) : Nat :=
  if k < j then j - 1 else j

/-- The numbers make room for call `k`. -/
def makeRoom (k j : Nat) : Nat :=
  if j < k then j else j + 1

section Numbers

variable {k i j : Nat}

theorem closeUp_makeRoom (k j : Nat) : closeUp k (makeRoom k j) = j := by
  unfold closeUp makeRoom
  split <;> split <;> omega

theorem makeRoom_closeUp (h : j ≠ k) : makeRoom k (closeUp k j) = j := by
  unfold closeUp makeRoom
  split <;> split <;> omega

theorem makeRoom_ne (k j : Nat) : makeRoom k j ≠ k := by
  unfold makeRoom
  split <;> omega

theorem closeUp_of_le (h : j ≤ k) : closeUp k j = j := by
  unfold closeUp
  exact if_neg (by omega)

variable {α : Type} {l : List α}

theorem getElem?_eraseIdx_closeUp (l : List α) (h : j ≠ k) :
    (l.eraseIdx k)[closeUp k j]? = l[j]? := by
  rw [List.getElem?_eraseIdx]
  unfold closeUp
  by_cases hlt : k < j
  · rw [if_pos hlt, if_neg (by omega)]
    congr 1
    omega
  · rw [if_neg hlt, if_pos (by omega)]

theorem length_eraseIdx_closeUp (l : List α) (k : Nat) :
    (l.eraseIdx k).length = closeUp k l.length := by
  rw [List.length_eraseIdx]
  rfl

theorem eraseIdx_set_closeUp (l : List α) (a : α) (h : j ≠ k) :
    (l.set j a).eraseIdx k = (l.eraseIdx k).set (closeUp k j) a := by
  unfold closeUp
  by_cases hlt : k < j
  · rw [if_pos hlt, List.eraseIdx_set_lt hlt]
  · rw [if_neg hlt, List.eraseIdx_set_gt (by omega)]

theorem eraseIdx_append_closeUp (l : List α) (a : α) (h : l.length ≠ k) :
    (l ++ [a]).eraseIdx k = l.eraseIdx k ++ [a] := by
  by_cases hlt : k < l.length
  · exact List.eraseIdx_append_of_lt_length hlt [a]
  · rw [List.eraseIdx_of_length_le (by omega : l.length ≤ k), List.eraseIdx_of_length_le]
    rw [List.length_append, List.length_singleton]
    omega

end Numbers

namespace Turnstile

variable {t : Turnstile} {k j : Nat}

/-- Who holds it, and then those that wait. -/
def line (t : Turnstile) : List Nat :=
  t.holder.toList ++ t.waiting

/-- The first of a line holds the turnstile, and the others wait. -/
def ofLine (l : List Nat) : Turnstile :=
  ⟨l.head?, l.tail⟩

/-- The turnstile without a call, and with the numbers that the others have then. -/
def without (k : Nat) (t : Turnstile) : Turnstile :=
  ofLine ((t.line.filter (· ≠ k)).map (closeUp k))

theorem line_ofLine (calls : List Nat) : (ofLine calls).line = calls := by
  cases calls <;> rfl

theorem ofLine_line (h : t.WellFormed) : ofLine t.line = t := by
  rcases t with ⟨holder, waiting⟩
  cases holder with
  | none =>
      have hempty : waiting = [] := h rfl
      subst hempty
      rfl
  | some i => rfl

theorem line_enter (h : t.WellFormed) : (t.enter j).line = t.line ++ [j] := by
  rcases t with ⟨holder, waiting⟩
  cases holder with
  | none =>
      have hempty : waiting = [] := h rfl
      subst hempty
      rfl
  | some i => rfl

theorem enter_ofLine (l : List Nat) (j : Nat) : (ofLine l).enter j = ofLine (l ++ [j]) := by
  cases l <;> rfl

theorem leave_eq (t : Turnstile) : t.leave = ofLine t.waiting := rfl

/-- Another call comes. -/
theorem without_enter (h : t.WellFormed) (hj : j ≠ k) :
    (t.enter j).without k = (t.without k).enter (closeUp k j) := by
  rw [without, line_enter h, List.filter_append, List.map_append, without, enter_ofLine]
  have hkeep : [j].filter (· ≠ k) = [j] := List.filter_eq_self.mpr (by simpa using hj)
  rw [hkeep]
  rfl

/-- The call itself comes. -/
theorem without_enter_self (h : t.WellFormed) (k : Nat) : (t.enter k).without k = t.without k := by
  rw [without, line_enter h, List.filter_append, without]
  have hdrop : [k].filter (· ≠ k) = [] := by simp
  rw [hdrop, List.append_nil]

theorem filter_ne_of_notMem {l : List Nat} (h : k ∉ l) : l.filter (· ≠ k) = l :=
  List.filter_eq_self.mpr fun _ hj => decide_eq_true fun heq => h (heq ▸ hj)

/-- Without its holder the turnstile is the line behind it. -/
theorem without_of_holder (h : t.holder = some k) (hk : k ∉ t.waiting) :
    t.without k = ofLine (t.waiting.map (closeUp k)) := by
  have hline : t.line.filter (· ≠ k) = t.waiting := by
    rw [line, h, Option.toList_some, List.filter_append, filter_ne_of_notMem hk]
    simp
  rw [without, hline]

/-- Whoever holds the turnstile holds it without any other call too. -/
theorem without_of_holder_ne (h : t.holder = some j) (hj : j ≠ k) :
    t.without k = ⟨some (closeUp k j), (t.waiting.filter (· ≠ k)).map (closeUp k)⟩ := by
  have hline : t.line.filter (· ≠ k) = j :: t.waiting.filter (· ≠ k) := by
    rw [line, h, Option.toList_some, List.singleton_append,
      List.filter_cons_of_pos (by simpa using hj)]
  rw [without, hline]
  rfl

/-- Nobody misses a call that is not there. -/
theorem without_of_lt (h : t.WellFormed) (hlt : ∀ j ∈ t.line, j < k) : t.without k = t := by
  have hfilter : t.line.filter (· ≠ k) = t.line :=
    List.filter_eq_self.mpr fun j hj => decide_eq_true (Nat.ne_of_lt (hlt j hj))
  have hmap : t.line.map (closeUp k) = t.line :=
    List.map_congr_left (fun j hj => closeUp_of_le (Nat.le_of_lt (hlt j hj))) |>.trans (List.map_id _)
  rw [without, hfilter, hmap, ofLine_line h]

end Turnstile

namespace System

variable {s t : System ι} {k call : Nat} {a : Action ι} {effects : List (Effect ι)}
  {o : Outcome}

/-- The calls, with the next in line let through if call `k` holds the turnstile. -/
def promoted (k : Nat) (s : System ι) : List (Call ι) :=
  if s.turnstile.holder = some k then
    match s.turnstile.waiting.head? with
    | none => s.calls
    | some next => s.calls.set next (.stopping .entering)
  else s.calls

/-- The service without a call. -/
def without (k : Nat) (s : System ι) : System ι :=
  s.patch ((s.promoted k).eraseIdx k) (s.turnstile.without k)

theorem promoted_of_ne (h : s.turnstile.holder ≠ some k) : s.promoted k = s.calls :=
  if_neg h

theorem promoted_of_holder (h : s.turnstile.holder = some k) : s.promoted k =
    match s.turnstile.waiting.head? with
    | none => s.calls
    | some next => s.calls.set next (.stopping .entering) :=
  if_pos h

theorem length_promoted (k : Nat) (s : System ι) : (s.promoted k).length = s.calls.length := by
  unfold promoted
  split
  · split
    · rfl
    · exact List.length_set
  · rfl

/-- A call that does not wait is found as it was. -/
theorem getElem?_promoted (hg : s.Gated) {c : Call ι} (hc : s.calls[call]? = some c)
    (hne : c ≠ .stopping .queued) : (s.promoted k)[call]? = s.calls[call]? := by
  unfold promoted
  split
  · split
    · rfl
    · rename_i next hhead
      have hqueued := stopPhase?_eq_some.mp ((hg.queued next).mp (List.mem_of_head? hhead))
      refine List.getElem?_set_ne ?_
      rintro rfl
      rw [hc, Option.some.injEq] at hqueued
      exact hne hqueued
  · rfl

theorem getElem?_without (hg : s.Gated) {c : Call ι} (hc : s.calls[call]? = some c)
    (hne : c ≠ .stopping .queued) (hk : call ≠ k) :
    ((s.promoted k).eraseIdx k)[closeUp k call]? = s.calls[call]? := by
  rw [getElem?_eraseIdx_closeUp _ hk, getElem?_promoted hg hc hne]

/-- What a step does to the calls it does to the calls without one that it leaves
    alone. -/
theorem promoted_change (hg : s.Gated) {change : CallChange ι} (hfits : change.Fits s a)
    (hcalls : t.calls = change.apply s.calls) (hturnstile : t.turnstile = s.turnstile)
    (hother : a.call? ≠ some k) (hmade : a.opens = true → s.calls.length ≠ k) :
    (t.promoted k).eraseIdx k =
      (change.renumber (closeUp k)).apply ((s.promoted k).eraseIdx k) := by
  -- Letting somebody through and changing a call are about different places, so they can be done in
  -- either order.
  have hpromoted : t.promoted k = change.apply (s.promoted k) := by
    unfold promoted
    rw [hturnstile, hcalls]
    split
    · cases hhead : s.turnstile.waiting.head? with
      | none => rfl
      | some next =>
          have hqueued := stopPhase?_eq_some.mp ((hg.queued next).mp (List.mem_of_head? hhead))
          cases change with
          | none => rfl
          | set i c =>
              -- Who waits takes no step.
              have hne : i ≠ next := by
                rintro rfl
                exact hfits.2.2 hqueued
              exact List.set_comm _ _ hne
          | add c =>
              exact List.set_append_left _ _ (List.getElem?_eq_some_iff.mp hqueued).1
    · rfl
  -- The place of the call itself is not the one that is changed, nor the one that is new.
  rw [hpromoted]
  cases change with
  | none => rfl
  | set i c =>
      have hne : i ≠ k := by
        rintro rfl
        exact hother hfits.1
      exact eraseIdx_set_closeUp _ _ hne
  | add c =>
      refine eraseIdx_append_closeUp _ _ ?_
      rw [length_promoted]
      exact hmade hfits.2

/-- A step that has nothing to do with the turnstile is one without a call that does
    not take it. -/
theorem Carried.without (hg : s.Gated) (hother : a.call? ≠ some k)
    (hmade : a.opens = true → s.calls.length ≠ k)
    {possible : System ι → List (Effect ι) → Prop}
    (h : Carried (closeUp k) (s.turnstile.without k) s a t effects ((s.promoted k).eraseIdx k)
      possible) :
    ∃ effects', possible (t.without k) effects' ∧
      seenIn effects' = (seenIn effects).map (Effect.renumber (closeUp k)) := by
  rcases h with ⟨change, effects', hfits, ht, hpossible, hseen⟩
  have hcalls : t.calls = change.apply s.calls := congrArg calls ht
  have hturnstile : t.turnstile = s.turnstile := (congrArg System.turnstile ht).trans rfl
  rw [← promoted_change hg hfits hcalls hturnstile hother hmade, ← hturnstile] at hpossible
  exact ⟨effects', hpossible, hseen⟩

theorem Gated.notMem_waiting (hg : s.Gated) (h : s.turnstile.holder = some k) :
    k ∉ s.turnstile.waiting := by
  rcases (hg.inside k).mp h with ⟨p, hp, hin⟩
  intro hmem
  rw [hg.queued, hp, Option.some.injEq] at hmem
  rw [hmem] at hin
  cases hin

/-- What becomes of the line of calls when another stop comes to the turnstile. Who is
    let in without the call depends on whether the call holds it. -/
theorem promoted_approached (hg : s.Gated) (hp : s.stopPhase? call = some .arriving)
    (hk : call ≠ k) :
    promoted k ({ s with turnstile := s.turnstile.enter call }.setStop call
        (if s.turnstile.holder.isNone then .entering else .queued)) =
      (s.promoted k).set call (.stopping
        (if (s.turnstile.without k).holder.isNone then .entering else .queued)) := by
  cases hholder : s.turnstile.holder with
  | none =>
      -- The turnstile is free, and nobody is in line.
      have hempty := hg.wellFormed hholder
      have hnone : (s.turnstile.without k).holder = none := by
        rw [Turnstile.without, Turnstile.line, hholder, hempty]
        rfl
      have henter : (s.turnstile.enter call).holder ≠ some k := by
        rw [Turnstile.enter, hholder]
        exact fun h => hk (Option.some.inj h)
      have hfree : s.turnstile.holder ≠ some k := by
        rw [hholder]
        exact (Option.some_ne_none k).symm
      rw [hnone, promoted_of_ne henter, promoted_of_ne hfree]
      rfl
  | some j =>
      have henter : s.turnstile.enter call =
          ⟨some j, s.turnstile.waiting ++ [call]⟩ := by
        rw [Turnstile.enter, hholder]
      by_cases hj : j = k
      · -- The call that is left out holds it, so its successor is the one that counts.
        subst hj
        have hwithout := Turnstile.without_of_holder hholder (hg.notMem_waiting hholder)
        cases hw : s.turnstile.waiting with
        | nil =>
            -- Without the call the turnstile is free, and the other one passes it.
            rw [hw] at hwithout
            simp only [promoted, setStop, setCall, henter, hholder, hw, hwithout, if_true,
              List.nil_append, List.head?_cons, List.head?_nil, List.set_set]
            rfl
        | cons next rest =>
            -- There is a successor already, and it is not the one that comes.
            have hqueued := (hg.queued next).mp (hw ▸ List.mem_cons_self)
            have hne : call ≠ next := by
              rintro rfl
              rw [hp] at hqueued
              cases hqueued
            rw [hw] at hwithout
            simp only [promoted, setStop, setCall, henter, hholder, hw, hwithout, if_true,
              List.cons_append, List.head?_cons]
            exact List.set_comm _ _ hne
      · -- Somebody else holds it, with or without the call.
        have hsome := Turnstile.without_of_holder_ne hholder hj
        have hne : (s.turnstile.enter call).holder ≠ some k := by
          rw [henter]
          exact fun h => hj (Option.some.inj h)
        rw [hsome, promoted_of_ne hne,
          promoted_of_ne (hholder ▸ fun h => hj (Option.some.inj h))]
        rfl

/-- Another stop comes to the turnstile. -/
theorem without_approached (hg : s.Gated) (hp : s.stopPhase? call = some .arriving)
    (hk : call ≠ k) :
    ({ s with turnstile := s.turnstile.enter call }.setStop call
        (if s.turnstile.holder.isNone then .entering else .queued)).without k =
      { s.without k with turnstile := (s.without k).turnstile.enter (closeUp k call) }.setStop
        (closeUp k call)
        (if (s.without k).turnstile.holder.isNone then .entering else .queued) := by
  have hturnstile : (s.turnstile.enter call).without k =
      (s.turnstile.without k).enter (closeUp k call) := Turnstile.without_enter hg.wellFormed hk
  rw [without, promoted_approached hg hp hk, eraseIdx_set_closeUp _ _ hk]
  change patch _ _ ((s.turnstile.enter call).without k) = _
  rw [hturnstile]
  rfl

/-- What becomes of the line of calls when another stop ends. -/
theorem calls_without_finishStop (hg : s.Gated) {p : StopPhase ι}
    (hp : s.stopPhase? call = some p) (hin : p.isInside = true) (hk : call ≠ k) (o : Outcome) :
    ((s.without k).finishStop (closeUp k call) o).1.calls =
      ((s.finishStop call o).1.promoted k).eraseIdx k := by
  have hholder := hg.holder hp hin
  have hne : s.turnstile.holder ≠ some k := fun h => hk (Option.some.inj (hholder.symm.trans h))
  have hwithout := Turnstile.without_of_holder_ne hholder hk
  -- What the turnstile and the calls are without the call, and what the end of the stop makes of
  -- them with it.
  have hthere : (s.without k).turnstile.waiting =
      (s.turnstile.waiting.filter (· ≠ k)).map (closeUp k) := by
    change (s.turnstile.without k).waiting = _
    rw [hwithout]
  have hhere : (s.without k).calls = s.calls.eraseIdx k := by
    change (s.promoted k).eraseIdx k = _
    rw [promoted_of_ne hne]
  have hset : (s.finishStop call o).1.calls = match s.turnstile.waiting.head? with
      | none => s.calls.set call (.ended o)
      | some next => (s.calls.set call (.ended o)).set next (.stopping .entering) :=
    congrArg (fun after => after.1.calls) (finishStop_eq s call o)
  have hleave : (s.finishStop call o).1.turnstile =
      ⟨s.turnstile.waiting.head?, s.turnstile.waiting.tail⟩ := turnstile_finishStop s call o
  -- From here on both sides are told by who is first in line.
  rw [finishStop_eq]
  dsimp only
  rw [hthere, hhere, ← eraseIdx_set_closeUp _ _ hk]
  cases hw : s.turnstile.waiting with
  | nil =>
      -- Nobody is let through, with or without the call.
      have hfree : (s.finishStop call o).1.turnstile.holder ≠ some k := by
        rw [hleave, hw]
        exact nofun
      rw [promoted_of_ne hfree, hset, hw]
      rfl
  | cons next rest =>
      by_cases hnext : next = k
      · -- The call itself is let through, and the one behind it without the call.
        subst hnext
        have hnodup := hg.nodup
        rw [hw, List.nodup_cons] at hnodup
        have hfilter : (next :: rest).filter (· ≠ next) = rest := by
          rw [List.filter_cons_of_neg (by simp), Turnstile.filter_ne_of_notMem hnodup.1]
        have hthrough : (s.finishStop call o).1.turnstile.holder = some next := by
          rw [hleave, hw]
          rfl
        rw [hfilter, promoted_of_holder hthrough, hset, hleave, hw]
        cases rest with
        | nil => exact (List.eraseIdx_set_eq).symm
        | cons second others =>
            have hne' : second ≠ next := fun h => hnodup.1 (h ▸ List.mem_cons_self)
            dsimp only [List.head?_cons, List.tail_cons]
            rw [eraseIdx_set_closeUp _ _ hne', List.eraseIdx_set_eq]
            rfl
      · -- Somebody else is first in line, also without the call.
        have hfilter : (next :: rest).filter (· ≠ k) = next :: rest.filter (· ≠ k) :=
          List.filter_cons_of_pos (by simpa using hnext)
        have hnot : (s.finishStop call o).1.turnstile.holder ≠ some k := by
          rw [hleave, hw]
          exact fun h => hnext (Option.some.inj h)
        rw [hfilter, promoted_of_ne hnot, hset, hw]
        exact (eraseIdx_set_closeUp _ _ hnext).symm

/-- Another stop ends. -/
theorem without_finishStop (hg : s.Gated) {p : StopPhase ι} (hp : s.stopPhase? call = some p)
    (hin : p.isInside = true) (hk : call ≠ k) (o : Outcome) :
    ((s.without k).finishStop (closeUp k call) o).1 = (s.finishStop call o).1.without k := by
  have hwithout := Turnstile.without_of_holder_ne (hg.holder hp hin) hk
  have hturnstile : (s.turnstile.without k).leave = s.turnstile.leave.without k := by
    rw [hwithout, Turnstile.leave_eq, Turnstile.leave_eq, Turnstile.without, Turnstile.line_ofLine]
  have hright : (s.finishStop call o).1.without k =
      s.patch (((s.finishStop call o).1.promoted k).eraseIdx k) (s.turnstile.leave.without k) := by
    rw [without, turnstile_finishStop, finishStop_eq]
    rfl
  rw [hright, ← calls_without_finishStop hg hp hin hk, ← hturnstile, finishStop_eq]
  rfl

theorem seenIn_finishStop (s : System ι) (call : Nat) (o : Outcome) :
    seenIn (s.finishStop call o).2 = [.finished call o] := by
  rw [finishStop_eq, seenIn_append, seenIn_map_woken]
  rfl

/-- A call that takes a step away from the turnstile does not wait there. -/
theorem StepElsewhere.caller_found (h : StepElsewhere s a t effects)
    (hcall : a.call? = some call) :
    ∃ c, s.calls[call]? = some c ∧ c ≠ .stopping .queued := by
  rcases h.carry id s.turnstile (fun _ _ => rfl) rfl with ⟨change, _, hfits, _⟩
  cases change with
  | none => exact absurd (hfits.1.symm.trans hcall) nofun
  | add c => exact absurd (hfits.1.symm.trans hcall) nofun
  | set i c =>
      have hi : i = call := Option.some.inj (hfits.1.symm.trans hcall)
      subst hi
      refine ⟨_, List.getElem?_eq_getElem hfits.2.1, fun hqueued => hfits.2.2 ?_⟩
      rw [List.getElem?_eq_getElem hfits.2.1, hqueued]

/-- A step of another call is a step of the service without the call, and shows the
    same. -/
theorem Step.without (hg : s.Gated) (h : Step s a t effects) (hother : a.call? ≠ some k)
    (hmade : a.opens = true → s.calls.length ≠ k) :
    ∃ effects', Step (s.without k) (a.renumber (closeUp k)) (t.without k) effects' ∧
      seenIn effects' = (seenIn effects).map (Effect.renumber (closeUp k)) := by
  -- Every step finds its call where it was, under its new number, and nothing else is asked of the
  -- calls but how many there are.
  have hlength : ((s.promoted k).eraseIdx k).length = closeUp k s.calls.length := by
    rw [length_eraseIdx_closeUp, length_promoted]
  have hne : ∀ {j : Nat}, a.call? = some j → j ≠ k := by
    rintro j hj rfl
    exact hother hj
  cases h with
  | elsewhere h =>
      -- Outside the turnstile a step only needs its call, which is not one in line.
      have hcalls : ∀ j, a.call? = some j →
          ((s.promoted k).eraseIdx k)[closeUp k j]? = s.calls[j]? := by
        intro j hj
        rcases h.caller_found hj with ⟨c, hc, hqueued⟩
        exact getElem?_without hg hc hqueued (hne hj)
      rcases (h.carry (closeUp k) (s.turnstile.without k) hcalls hlength).without hg hother hmade
        with ⟨effects', hpossible, hseen⟩
      exact ⟨effects', .elsewhere hpossible, hseen⟩
  | @approached j hp =>
      have hcall := getElem?_without hg (stopPhase?_eq_some.mp hp) nofun (hne rfl)
      have hp' : (s.without k).stopPhase? (closeUp k j) = some .arriving :=
        (stopPhase?_patch (closeUp k) _ hcall).trans hp
      rw [without_approached hg hp (hne rfl)]
      exact ⟨[], .approached hp', rfl⟩
  | @stopMoved j p q a shown hp hmove =>
      -- A stop that moves is inside, so it is not in line either.
      have hqueued : Call.stopping p ≠ .stopping .queued := by
        rintro ⟨⟩
        exact Bool.false_ne_true hmove.isInside.1
      have hcall := getElem?_without hg (stopPhase?_eq_some.mp hp) hqueued (hne hmove.caller)
      exact (stopMoved_carried (closeUp k) (s.turnstile.without k) hp hmove hcall).without hg
        hother hmade
  | @stopEnded j p a shown o hp hend =>
      have hqueued : Call.stopping p ≠ .stopping .queued := by
        rintro ⟨⟩
        exact Bool.false_ne_true hend.isInside
      have hk := hne hend.caller
      have hcall := getElem?_without hg (stopPhase?_eq_some.mp hp) hqueued hk
      have hp' : (s.without k).stopPhase? (closeUp k j) = some p :=
        (stopPhase?_patch (closeUp k) _ hcall).trans hp
      have hstep := Step.stopEnded hp' (hend.carry (closeUp k) (s.turnstile.without k))
      -- Leaving the turnstile is where the two systems differ most, and they agree after it.
      rw [without_finishStop hg hp hend.isInside hk] at hstep
      refine ⟨_, hstep, ?_⟩
      rw [seenIn_append, seenIn_finishStop, seenIn_append, seenIn_finishStop, List.map_append,
        seenIn_map_renumber]
      rfl

end System

end Steward
