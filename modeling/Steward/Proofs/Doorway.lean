import Steward.Proofs.Absence

/-!
# At the Door

A call that was not let in has left nothing behind.

A start has to pass the guards, a stop the turnstile and the guards. As long as it has
done neither, all there is of it is that it was made, and where it stands. So the
service without it is the same after each of its steps (`Step.without_own`), and it is
still the same when the call is turned away. Once the call has ended, the service can
do exactly what it could do if the call had not been made: `run_without` is an equation
between what is possible, and what comes of it, with the call and without.

## Main definitions

* `Call.isAtDoor`: A call that was made and not let in.

## Theorems

* `without_of_length_le`, `without_addCall`: A call that is not made, or just made.
* `without_setCall`, `without_finishStop_self`: A call that ends.
* `Step.without_own`: A call at the door is as good as not made.
* `run_without`: Once a call has ended, whatever happens is what happens without it.
-/

namespace Steward

variable {ι : Type}

namespace System

variable {s t : System ι} {k call : Nat} {a : Action ι} {effects : List (Effect ι)}
  {o : Outcome}

section Same

theorem holder_ne_of_length_le (hg : s.Gated) (h : s.calls.length ≤ k) :
    s.turnstile.holder ≠ some k := by
  intro hholder
  rcases (hg.inside k).mp hholder with ⟨p, hp, -⟩
  exact absurd (List.getElem?_eq_some_iff.mp (stopPhase?_eq_some.mp hp)).1 (Nat.not_lt.mpr h)

/-- A service without a call that was not made is the same service. -/
theorem without_of_length_le (hg : s.Gated) (h : s.calls.length ≤ k) : s.without k = s := by
  have hlt : ∀ j p, s.stopPhase? j = some p → j < k := fun j p hp =>
    Nat.lt_of_lt_of_le (List.getElem?_eq_some_iff.mp (stopPhase?_eq_some.mp hp)).1 h
  have hline : ∀ j ∈ s.turnstile.line, j < k := by
    intro j hj
    rcases List.mem_append.mp hj with hj | hj
    · rcases (hg.inside j).mp (Option.mem_toList.mp hj) with ⟨p, hp, -⟩
      exact hlt j p hp
    · exact hlt j _ ((hg.queued j).mp hj)
  rw [without, promoted_of_ne (holder_ne_of_length_le hg h), List.eraseIdx_of_length_le h,
    Turnstile.without_of_lt hg.wellFormed hline]
  rfl

/-- A call that is made is none without it. -/
theorem without_addCall (hg : s.Gated) (h : s.calls.length = k) (c : Call ι) :
    (s.addCall c).without k = s.without k := by
  have hle : s.calls.length ≤ k := Nat.le_of_eq h
  have hne : s.turnstile.holder ≠ some k := holder_ne_of_length_le hg hle
  have hne' : (s.addCall c).turnstile.holder ≠ some k := hne
  have hcalls : (s.calls ++ [c]).eraseIdx k = s.calls.eraseIdx k := by
    rw [List.eraseIdx_append_of_length_le hle, h, Nat.sub_self, List.eraseIdx_of_length_le hle]
    exact List.append_nil _
  rw [without, promoted_of_ne hne', without, promoted_of_ne hne, ← hcalls]
  rfl

theorem without_setCall (hne : s.turnstile.holder ≠ some k) (c : Call ι) :
    (s.setCall k c).without k = s.without k := by
  have hne' : (s.setCall k c).turnstile.holder ≠ some k := hne
  have hcalls : (s.calls.set k c).eraseIdx k = s.calls.eraseIdx k := List.eraseIdx_set_eq
  rw [without, promoted_of_ne hne', without, promoted_of_ne hne, ← hcalls]
  rfl

/-- A stop that comes to the turnstile comes to nobody's notice. -/
theorem without_approached_self (hg : s.Gated) (hp : s.stopPhase? k = some .arriving)
    (p : StopPhase ι) :
    ({ s with turnstile := s.turnstile.enter k }.setStop k p).without k = s.without k := by
  have hne : s.turnstile.holder ≠ some k := by
    intro hholder
    rcases (hg.inside k).mp hholder with ⟨q, hq, hin⟩
    rw [hp, Option.some.injEq] at hq
    rw [← hq] at hin
    cases hin
  have hpromoted : promoted k ({ s with turnstile := s.turnstile.enter k }.setStop k p) =
      s.calls.set k (.stopping p) := by
    cases hholder : s.turnstile.holder with
    | none =>
        -- It holds the turnstile now, and nobody is behind it.
        simp only [promoted, setStop, setCall, Turnstile.enter, hholder, hg.wellFormed hholder,
          if_true, List.head?_nil]
    | some j =>
        refine promoted_of_ne ?_
        simp only [setStop, setCall, Turnstile.enter, hholder]
        exact hholder ▸ hne
  have hturnstile := Turnstile.without_enter_self hg.wellFormed k
  rw [without, hpromoted, List.eraseIdx_set_eq, without, promoted_of_ne hne, ← hturnstile]
  rfl

/-- A stop that leaves the turnstile leaves it as it is without this stop. -/
theorem without_finishStop_self (hg : s.Gated) (hholder : s.turnstile.holder = some k)
    (o : Outcome) : (s.finishStop k o).1.without k = s.without k := by
  -- The holder is not in line as well, so after its end it is nowhere at the turnstile.
  have hmem := hg.notMem_waiting hholder
  have hnot : (s.finishStop k o).1.turnstile.holder ≠ some k := by
    rw [turnstile_finishStop]
    exact fun h => hmem (List.mem_of_head? h)
  have hturnstile : s.turnstile.leave.without k = s.turnstile.without k := by
    have hline : s.turnstile.leave.line = s.turnstile.waiting := by
      cases hw : s.turnstile.waiting <;> rw [Turnstile.line, Turnstile.leave, hw] <;> rfl
    rw [Turnstile.without, hline, Turnstile.filter_ne_of_notMem hmem,
      Turnstile.without_of_holder hholder hmem]
  -- The first in line is let through on either side, and the call itself is left out of both.
  have hcalls : (s.finishStop k o).1.calls.eraseIdx k = (s.promoted k).eraseIdx k := by
    rw [promoted_of_holder hholder, finishStop_eq]
    dsimp only
    cases hhead : s.turnstile.waiting.head? with
    | none => exact List.eraseIdx_set_eq
    | some next =>
        have hne : next ≠ k := fun h => hmem (h ▸ List.mem_of_head? hhead)
        dsimp only
        rw [eraseIdx_set_closeUp _ _ hne, List.eraseIdx_set_eq, ← eraseIdx_set_closeUp _ _ hne]
  rw [without, promoted_of_ne hnot, hcalls, turnstile_finishStop, hturnstile, finishStop_eq]
  rfl

end Same

end System

/-- Whether a call was made and not yet let in. -/
def Call.isAtDoor : Call ι → Bool
  | .starting .entering => true
  | .stopping .arriving | .stopping .queued | .stopping .entering => true
  | _ => false

namespace System

variable {s t : System ι} {k : Nat} {a : Action ι} {effects : List (Effect ι)}

theorem call?_of_opens (h : a.opens = true) : a.call? = none := by
  cases a <;> first | rfl | cases h

/-- A step makes at most one call, and takes none away. -/
theorem Step.length_eq (h : Step s a t effects) :
    t.calls.length = if a.opens then s.calls.length + 1 else s.calls.length := by
  -- A step of a call does not make another one.
  have hset : ∀ {i : Nat}, a.call? = some i → a.opens = false := by
    intro i hi
    refine Bool.eq_false_iff.mpr fun hopens => ?_
    rw [call?_of_opens hopens] at hi
    cases hi
  cases h with
  | elsewhere h =>
      rcases h.carry id s.turnstile (fun _ _ => rfl) rfl with ⟨change, _, hfits, ht, -, -⟩
      rw [ht]
      change (change.apply s.calls).length = _
      -- Outside the turnstile it is known of each step which kind of change it makes.
      cases change with
      | none =>
          rw [hfits.2]
          rfl
      | set i c =>
          rw [hset hfits.1]
          exact List.length_set
      | add c =>
          rw [hfits.2]
          exact List.length_append
  | approached hp => exact List.length_set
  | stopMoved hp hmove =>
      rw [hset hmove.caller]
      exact List.length_set
  | stopEnded hp hend =>
      rw [hset hend.caller, finishStop_eq]
      dsimp only
      cases s.turnstile.waiting.head? with
      | none => exact List.length_set
      | some next => exact List.length_set.trans List.length_set

/-- A call takes no step before it is made. -/
theorem Step.caller_lt (h : Step s a t effects) (hcall : a.call? = some call) :
    call < s.calls.length := by
  have hlt : ∀ {i : Nat} {p : StopPhase ι}, a.call? = some i → s.stopPhase? i = some p →
      call < s.calls.length := by
    intro i p hi hp
    rw [hcall, Option.some.injEq] at hi
    exact hi ▸ (List.getElem?_eq_some_iff.mp (stopPhase?_eq_some.mp hp)).1
  cases h with
  | elsewhere h =>
      rcases h.caller_found hcall with ⟨c, hc, -⟩
      exact (List.getElem?_eq_some_iff.mp hc).1
  | approached hp => exact hlt rfl hp
  | stopMoved hp hmove => exact hlt hmove.caller hp
  | stopEnded hp hend => exact hlt hend.caller hp

/-- A registration is never at the door: it is let in or turned away as it is made. -/
theorem not_isAtDoor_register {kind : EventKind} {outcome : Registration × Roster ι}
    (hk : s.calls.length = k) {c : Call ι}
    (hc : (s.register kind outcome).1.calls[k]? = some c) : c.isAtDoor = false := by
  subst hk
  have hlast : ∀ c' : Call ι, (s.calls ++ [c'])[s.calls.length]? = some c → c' = c := by
    intro c' h
    rw [List.getElem?_concat_length] at h
    exact Option.some.inj h
  rcases outcome with ⟨_ | _ | _, roster⟩
  · rw [← hlast _ hc]
    rfl
  · rw [← hlast _ hc]
    rfl
  · rw [← hlast _ hc]
    rfl

/-- A call that is at the door after a step of its own has left nothing behind in this
    step, and was at the door before. -/
theorem Step.without_own (hg : s.Gated) (h : Step s a t effects)
    (hown : a.call? = some k ∨ a.opens = true ∧ s.calls.length = k) {c : Call ι}
    (hc : t.calls[k]? = some c) (hdoor : c.isAtDoor = true) :
    t.without k = s.without k ∧ seenIn effects = [] ∧
      ∀ c', s.calls[k]? = some c' → c'.isAtDoor = true := by
  -- What a step of its own makes of the call is known, and mostly not at the door.
  have hset : ∀ {i : Nat} {c' : Call ι}, a.call? = some i → t.calls = s.calls.set i c' →
      i < s.calls.length → i = k ∧ c'.isAtDoor = true := by
    intro i c' hcaller hcalls hlt
    rcases hown with hk | ⟨hopens, -⟩
    · have hik : i = k := Option.some.inj (hcaller.symm.trans hk)
      subst hik
      rw [hcalls, List.getElem?_set_self hlt, Option.some.injEq] at hc
      exact ⟨rfl, hc ▸ hdoor⟩
    · rw [call?_of_opens hopens] at hcaller
      cases hcaller
  have hlt : ∀ {i : Nat} {c' : Call ι}, s.calls[i]? = some c' → i < s.calls.length :=
    fun h => (List.getElem?_eq_some_iff.mp h).1
  cases h with
  | elsewhere h =>
      cases h with
      | serve | attach =>
          -- A registration has ended at once, so it is not at the door.
          rcases hown with hk | ⟨-, hk⟩
          · cases hk
          · rw [not_isAtDoor_register hk hc] at hdoor
            cases hdoor
      | begin =>
          -- A call that begins was not there before, and leaving it out leaves what there was.
          rcases hown with hk | ⟨-, hk⟩
          · cases hk
          · refine ⟨without_addCall hg hk _, rfl, fun c' hc' => ?_⟩
            exact absurd (hlt hc') (Nat.not_lt.mpr (Nat.le_of_eq hk))
      | runServer _ | endServer _ | hear =>
          rcases hown with hk | ⟨hopens, -⟩
          · cases hk
          · cases hopens
      | announceRegistered hcall => cases (hset rfl rfl (hlt hcall)).2
      | startAdmitted hp _ | launched hp => cases (hset rfl rfl (hlt (startPhase?_eq_some.mp hp))).2
      | startMoved hp hmove =>
          have hq := (hset hmove.plain.1 rfl (hlt (startPhase?_eq_some.mp hp))).2
          cases hmove <;> cases hq
      | startEnded hp hend =>
          cases (hset hend.plain.1 rfl (hlt (startPhase?_eq_some.mp hp))).2
      | statusEntered hp => cases (hset rfl rfl (hlt (statusPhase?_eq_some.mp hp))).2
      | statusMoved hp hmove =>
          cases (hset hmove.plain.1 rfl (hlt (statusPhase?_eq_some.mp hp))).2
      | statusEnded hp hend =>
          cases (hset hend.plain.1 rfl (hlt (statusPhase?_eq_some.mp hp))).2
  | approached hp =>
      -- The one step at the door: a stop comes to the turnstile.
      have hk := (hset rfl rfl (hlt (stopPhase?_eq_some.mp hp))).1
      subst hk
      refine ⟨without_approached_self hg hp _, rfl, fun c' hc' => ?_⟩
      rw [stopPhase?_eq_some.mp hp, Option.some.injEq] at hc'
      rw [← hc']
      rfl
  | stopMoved hp hmove =>
      have hq := (hset hmove.caller rfl (hlt (stopPhase?_eq_some.mp hp))).2
      cases hmove <;> cases hq
  | @stopEnded i p a shown o hp hend =>
      rcases hown with hk | ⟨hopens, -⟩
      · have hik : i = k := Option.some.inj (hend.caller.symm.trans hk)
        subst hik
        rw [hg.ended_finishStop hp hend.isInside, Option.some.injEq] at hc
        rw [← hc] at hdoor
        cases hdoor
      · have hcaller := hend.caller
        rw [call?_of_opens hopens] at hcaller
        cases hcaller

end System

section Renumber

variable (f : Nat → Nat) (a : Action ι) (k : Nat)

theorem Action.call?_renumber : (a.renumber f).call? = a.call?.map f := by
  cases a <;> rfl

theorem Action.closeUp_makeRoom : (a.renumber (makeRoom k)).renumber (closeUp k) = a := by
  cases a <;> simp only [Action.renumber, Steward.closeUp_makeRoom]

end Renumber

namespace System

variable {s t : System ι} {k : Nat} {settings : Settings} {o : Outcome}

/-- Who has ended is not at the turnstile. -/
theorem promoted_of_ended (hg : s.Gated) (hended : s.calls[k]? = some (.ended o)) :
    s.promoted k = s.calls := by
  refine promoted_of_ne fun hholder => ?_
  rcases (hg.inside k).mp hholder with ⟨p, hp, -⟩
  rw [stopPhase?_eq_some, hended] at hp
  cases hp

/-- Once a call has ended, the next step of the others is one without the call, and
    the other way round. -/
theorem act_without (hg : s.Gated) (hended : s.calls[k]? = some (.ended o)) (b : Action ι) :
    (s.act (b.renumber (makeRoom k))).map (fun next =>
        (next.1.without k, (seenIn next.2).map (Effect.renumber (closeUp k)))) =
      ((s.without k).act b).map fun next => (next.1, seenIn next.2) := by
  have hlt : k < s.calls.length := (List.getElem?_eq_some_iff.mp hended).1
  have hother : (b.renumber (makeRoom k)).call? ≠ some k := by
    rw [Action.call?_renumber]
    intro h
    rcases Option.map_eq_some_iff.mp h with ⟨j, -, hj⟩
    exact makeRoom_ne k j hj
  -- Whatever is possible with the call that has ended is possible without it.
  have hthere : ∀ u now, s.act (b.renumber (makeRoom k)) = some (u, now) → ∃ now',
      (s.without k).act b = some (u.without k, now') ∧
        seenIn now' = (seenIn now).map (Effect.renumber (closeUp k)) := by
    intro u now hact
    rcases (step_of_act hact).without hg hother (fun _ => Nat.ne_of_gt hlt) with
      ⟨now', hstep, hseen⟩
    rw [Action.closeUp_makeRoom] at hstep
    exact ⟨now', act_of_step hstep, hseen⟩
  cases hact : s.act (b.renumber (makeRoom k)) with
  | some next =>
      rcases hthere next.1 next.2 hact with ⟨now', hact', hseen⟩
      rw [hact', Option.map_some, Option.map_some, hseen]
  | none =>
      cases hact' : (s.without k).act b with
      | none => rfl
      | some next =>
          -- What is possible without the call is possible with it, and it was not.
          have hcalls : ∀ j, b.call? = some j →
              s.calls[makeRoom k j]? = (s.without k).calls[j]? := by
            intro j _
            change _ = ((s.promoted k).eraseIdx k)[j]?
            rw [promoted_of_ended hg hended, ← getElem?_eraseIdx_closeUp _ (makeRoom_ne k j),
              closeUp_makeRoom]
          have hlength : s.calls.length = makeRoom k (s.without k).calls.length := by
            change _ = makeRoom k ((s.promoted k).eraseIdx k).length
            rw [length_eraseIdx_closeUp, length_promoted, makeRoom_closeUp (Nat.ne_of_gt hlt)]
          rcases (step_of_act hact').carried (makeRoom k) s.turnstile hcalls hlength with
            ⟨u, now, hstep⟩
          have hact'' := act_of_step hstep
          change s.act _ = _ at hact''
          rw [hact] at hact''
          cases hact''

/-- Once a call has ended, whatever happens is what happens without it. -/
theorem run_without (hs : Reachable settings s) (hended : s.calls[k]? = some (.ended o))
    (later : List (Action ι)) :
    (s.run (later.map (Action.renumber (makeRoom k)))).map (fun last =>
        (last.1.without k, (seenIn last.2).map (Effect.renumber (closeUp k)))) =
      ((s.without k).run later).map fun last => (last.1, seenIn last.2) := by
  -- The induction is on the actions, and the call has ended in every system on the way.
  induction later generalizing s with
  | nil => rfl
  | cons b rest ih =>
      have hnext := act_without hs.gated hended b
      rw [List.map_cons, run, run]
      cases hact : s.act (b.renumber (makeRoom k)) with
      | none =>
          rw [hact] at hnext
          have hnone : (s.without k).act b = none := Option.map_eq_none_iff.mp hnext.symm
          rw [hnone]
          rfl
      | some next =>
          rw [hact, Option.map_some] at hnext
          rcases Option.map_eq_some_iff.mp hnext.symm with ⟨next', hact', heq⟩
          rcases Prod.mk.inj heq with ⟨hstate, hseen⟩
          -- What comes of the rest is put behind what the first step has shown, on both sides.
          have hrest := ih (hs.act hact) ((step_of_act hact).ended_stays hs.gated hended)
          have happend := congrArg (Option.map fun last : System ι × List (Effect ι) =>
            (last.1, seenIn next'.2 ++ last.2)) hrest
          rw [hact', Option.bind_some, Option.bind_some, hstate, Option.map_map, Option.map_map]
          rw [Option.map_map, Option.map_map] at happend
          have hleft : ∀ last : System ι × List (Effect ι),
              (seenIn (next.2 ++ last.2)).map (Effect.renumber (closeUp k)) =
                seenIn next'.2 ++ (seenIn last.2).map (Effect.renumber (closeUp k)) := by
            intro last
            rw [seenIn_append, List.map_append, hseen]
          simp only [Function.comp_def, hleft]
          simpa only [Function.comp_def, seenIn_append] using happend

end System

end Steward
