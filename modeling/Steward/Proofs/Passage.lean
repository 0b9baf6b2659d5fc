import Steward.Proofs.Relay
import Steward.Proofs.Ring
import Mathlib.Data.List.Infix

/-!
# What Gets Through to a Subscriber

Which events a subscriber is handed that could take every one of them.

A subscriber has a queue of its own, so no other one can keep it from an event
that the relay hands out: if its queue has room whenever the relay comes, it is
handed all that the relay takes (`handedTo_eq_emittedIn`). Between the calls and
the relay all subscribers share one ring. What is pushed out of the ring before
the relay has come to it is lost, and lost to all of them. So the events that get
through are those that were never lost, and nothing else decides about it
(`handed_on`). In particular they all get through if never more are under way
than the ring holds.

Reports on subscribers are under way like everything else, and this is where one
subscriber gets in the way of the others. A report can push out an event of the
service, though the service alone would never have filled the ring, and nobody
gets to see that event (`report_pushes_out`).

## Main definitions

* `Relay.HasRoom`: Whether a subscriber could take an event now.
* `Relay.HasLost`, `Service.Lost`: Whether an event is lost, now or at some moment
  of a run.
* `Service.Passing`: What of a run the relay has handed out.

## Theorems

* `handedTo_eq_emittedIn`: A queue with room gets what is handed out.
* `Passing.step`: The relay hands out what is not lost.
* `handed_on`: A subscriber is handed what was never lost.
* `report_pushes_out`: A report can push an event out.
-/

namespace Steward

variable {ι : Type}

/-- Whether a mailbox would take an event. -/
def Mailbox.HasRoom (m : Mailbox) : Prop :=
  m.worker ≠ .ended ∧ m.queue.length < m.capacity

instance (m : Mailbox) : Decidable m.HasRoom :=
  inferInstanceAs (Decidable (_ ∧ _))

/-- Whether the subscriber in a place would take an event now. -/
def Relay.HasRoom (r : Relay) (place : Nat) : Prop :=
  ∃ m ∈ r.delivery.fanout.boxes[place]?, m.HasRoom

instance (r : Relay) (place : Nat) : Decidable (r.HasRoom place) :=
  inferInstanceAs (Decidable (∃ m ∈ _, _))

/-- Whether the event of a number is lost to a relay: it was pushed out of the ring,
    and the relay has not come to it. -/
def Relay.HasLost (r : Relay) (number : Nat) : Prop :=
  r.next ≤ number ∧ number < r.delivery.ring.oldest

section HandedTo

variable (effects : List (ServiceEffect ι)) {place : Nat}

theorem handedTo_call (place : Nat) (shown : List (Effect ι)) :
    handedTo place (shown.map ServiceEffect.call) = [] := by
  rw [handedTo, List.filterMap_map, List.filterMap_eq_nil_iff]
  exact fun _ _ => rfl

theorem handedTo_published (place : Nat) (events : List Event) :
    handedTo place (events.map fun e => (.relay (.shown (.published e)) : ServiceEffect ι)) =
      [] := by
  rw [handedTo, List.filterMap_map, List.filterMap_eq_nil_iff]
  exact fun _ _ => rfl

/-- Of a numbered list only the entry in one place is looked at. -/
theorem filterMap_zipIdx_place {α β : Type} {l : List α} {i : Nat} {a : α} (f : α → Option β)
    (first : Nat) (h : l[i]? = some a) :
    (l.zipIdx first).filterMap (fun x => if x.2 = first + i then f x.1 else none) =
      (f a).toList := by
  induction l generalizing i first with
  | nil => cases h
  | cons b rest ih =>
      rw [List.zipIdx_cons]
      cases i with
      | zero =>
          cases h
          -- The places only grow from here on.
          have hrest : (rest.zipIdx (first + 1)).filterMap
              (fun x => if x.2 = first + 0 then f x.1 else none) = [] := by
            rw [List.filterMap_eq_nil_iff]
            rintro ⟨x, p⟩ hmem
            have hle := (List.mem_zipIdx hmem).1
            exact if_neg (by omega)
          rw [List.filterMap_cons, hrest]
          dsimp only
          rw [if_pos (Nat.add_zero first).symm]
          cases f a <;> rfl
      | succ i =>
          -- The first element stands before the place.
          have hhead : first ≠ first + (i + 1) := by omega
          have hrest := ih (first + 1) h
          rw [Nat.add_right_comm, Nat.add_assoc first i 1] at hrest
          exact (List.filterMap_cons_none (a := (b, first)) (if_neg hhead)).trans hrest

/-- Whoever has room is handed an event that is offered to all, once. -/
theorem handedTo_offers {d : Delivery} {m : Mailbox} (e : Event)
    (hbox : d.fanout.boxes[place]? = some m) (hroom : m.HasRoom) :
    handedTo place ((d.offers e).map fun shown =>
      (.relay (.shown shown) : ServiceEffect ι)) = [e] := by
  have hplace := filterMap_zipIdx_place
    (fun m : Mailbox => if (m.post e).isOk then some e else none) 0 hbox
  -- There is room, so the event is taken in.
  have hpost : (m.post e).isOk = true := by
    rw [Mailbox.post, if_neg hroom.1, if_neg (Nat.not_le.mpr hroom.2)]
    rfl
  rw [Nat.zero_add, if_pos hpost] at hplace
  rw [handedTo, Delivery.offers, List.map_map, List.filterMap_map]
  refine Eq.trans ?_ hplace
  congr 1
  funext ⟨m, p⟩
  dsimp only [Function.comp_apply]
  cases m.post e with
  | ok _ => rfl
  | error why => exact (ite_self _).symm

/-- A subscriber that has room is handed what the relay hands out. -/
theorem Service.Step.handedTo_eq {s t : Service ι} {a : ServiceAction ι}
    {effects : List (ServiceEffect ι)} (h : Service.Step s a t effects)
    (hroom : s.relay.HasRoom place) : handedTo place effects = emittedIn effects := by
  rcases hroom with ⟨m, hbox, hroom⟩
  cases h with
  | called hact => rw [handedTo_call, Service.emittedIn_call]
  | gone hgone => rfl
  | moved hmove =>
      cases hmove with
      | took hlistens hnext =>
          -- The event the relay takes is offered to every box, and there is room in this one.
          rw [Service.shown_of_took, handedTo_append, handedTo_append, handedTo_offers _ hbox hroom,
            handedTo_published, emittedIn_append, emittedIn_append, Service.emittedIn_offers,
            Service.emittedIn_published]
          rfl
      | finished hbox hbusy =>
          rw [Service.shown_of_finished, handedTo_append, handedTo_published, emittedIn_append,
            Service.emittedIn_published]
          rfl
      | missed _ _ | picked _ _ | retired _ _ | closed _ _ _ _ => rfl

end HandedTo

namespace Service

variable {s t : Service ι} {actions : List (ServiceAction ι)} {effects : List (ServiceEffect ι)}
  {place : Nat}

theorem handedTo_eq_emittedIn (hrun : s.run actions = some (t, effects))
    (hroom : s.Always actions fun u _ => u.relay.HasRoom place) :
    handedTo place effects = emittedIn effects := by
  refine run_induction (fun _ _ effects => handedTo place effects = emittedIn effects) rfl ?_ hrun
  intro before u shown a v now hpre hbefore hu hact
  have hnow := (hroom.mono hpre).mono (List.prefix_append before [a]) |>.last hbefore
  rw [handedTo_append, emittedIn_append, hu, (step_of_act hact).handedTo_eq hnow]

/-- Whether the event of a number is lost to the relay at some moment of a run. -/
def Lost (s : Service ι) (actions : List (ServiceAction ι)) (number : Nat) : Prop :=
  ∃ before u shown, before <+: actions ∧ s.run before = some (u, shown) ∧
    u.relay.HasLost number

theorem lost_append_singleton {before : List (ServiceAction ι)} {a : ServiceAction ι}
    {u v : Service ι} {shown now : List (ServiceEffect ι)}
    (hbefore : s.run before = some (u, shown)) (hact : u.act a = some (v, now)) (number : Nat) :
    s.Lost (before ++ [a]) number ↔ s.Lost before number ∨ v.relay.HasLost number := by
  have hlast := run_append_singleton hbefore hact
  constructor
  · rintro ⟨first, w, seen, hpre, hrun, hlost⟩
    rcases List.prefix_concat_iff.mp hpre with rfl | hpre
    · rw [hlast] at hrun
      cases hrun
      exact Or.inr hlost
    · exact Or.inl ⟨first, w, seen, hpre, hrun, hlost⟩
  · rintro (⟨first, w, seen, hpre, hrun, hlost⟩ | hlost)
    · exact ⟨first, w, seen, hpre.trans (List.prefix_append _ _), hrun, hlost⟩
    · exact ⟨before ++ [a], v, shown ++ now, List.prefix_refl _, hlast, hlost⟩

open Classical in
/-- How a run stands that began with an empty ring: what was published is on the ring
    as far as the ring keeps it, and what the relay has come to was handed out unless
    it was lost. -/
structure Passing (s : Service ι) (before : List (ServiceAction ι)) (u : Service ι)
    (shown : List (ServiceEffect ι)) : Prop where
  keeps : u.relay.delivery.ring.Keeps (eventsIn shown)
  nextSeq : u.relay.delivery.nextSeq = (eventsIn shown).length
  next : u.relay.next ≤ (eventsIn shown).length
  /-- The ring has only moved on. -/
  older : s.Always before fun w _ => w.relay.delivery.ring.oldest ≤ u.relay.delivery.ring.oldest
  emitted : emittedIn shown =
    ((eventsIn shown).take u.relay.next).filter fun e => ¬ s.Lost before e.seq

section Passing

variable {before : List (ServiceAction ι)} {a : ServiceAction ι} {u v : Service ι}
  {shown now : List (ServiceEffect ι)} {settings : Settings} {subscribers : List (String × Nat)}

theorem passing_fresh :
    (fresh settings subscribers : Service ι).Passing [] (fresh settings subscribers) [] where
  keeps := Broadcast.keeps_ofCapacity _
  nextSeq := rfl
  next := le_refl 0
  older := by
    intro first w seen hpre hrun
    cases List.prefix_nil.mp hpre
    cases hrun
    exact le_refl _
  emitted := rfl

theorem Passing.eventsIn_append (h : s.Passing before u shown)
    (now : List (ServiceEffect ι)) :
    eventsIn (shown ++ now) = eventsIn shown ++ u.relay.delivery.stamped (noticesIn now) := by
  rw [eventsIn, noticesIn_append, Notice.stampAll_append, Delivery.stamped, h.nextSeq,
    length_eventsIn, Nat.zero_add]
  rfl

/-- The relay does not get past the end of what was published. -/
theorem Passing.next_le (h : s.Passing before u shown) (hstep : Step u a v now) :
    u.relay.next ≤ v.relay.next ∧ v.relay.next ≤ (eventsIn shown).length := by
  have htotal := h.keeps.total
  have hnext := h.next
  rcases hstep.next_cases with ⟨hsame, -⟩ | ⟨e, hitem, -⟩ | ⟨lost, hlagged, -⟩
  · omega
  · have hlt := Broadcast.lt_total_of_item hitem
    have hafter := (Broadcast.receive_eq_item hitem).2.2
    omega
  · have hlost := Broadcast.receive_eq_lagged hlagged
    have hold := u.relay.delivery.ring.oldest_le_total
    omega

/-- What the relay takes was never lost. -/
theorem Passing.not_lost (h : s.Passing before u shown) {number : Nat}
    (hkept : u.relay.delivery.ring.oldest ≤ number) : ¬ s.Lost before number := by
  rintro ⟨first, w, seen, hpre, hrun, -, hlost⟩
  have hold := h.older first w seen hpre hrun
  omega

open Classical in
/-- In a step the relay hands out what it comes to, unless that is lost. -/
theorem Passing.emitted_step (h : s.Passing before u shown)
    (hbefore : s.run before = some (u, shown)) (hact : u.act a = some (v, now)) :
    emittedIn (shown ++ now) = ((eventsIn shown).take v.relay.next).filter
      fun e => ¬ s.Lost (before ++ [a]) e.seq := by
  have hstep := step_of_act hact
  have hnext := h.next_le hstep
  have hlost := lost_append_singleton hbefore hact
  -- What the relay had come to before is as lost as it was.
  have hold : ((eventsIn shown).take u.relay.next).filter
      (fun e => ¬ s.Lost (before ++ [a]) e.seq) = emittedIn shown := by
    rw [h.emitted]
    refine List.filter_congr fun e he => ?_
    have hlt := (seq_of_mem_drop_take (i := 0) he).2
    have hnot : ¬ v.relay.HasLost e.seq := fun hv => by
      have := hv.1
      omega
    rw [hlost, or_iff_left hnot]
  rw [emittedIn_append, ← hold]
  rcases hstep.next_cases with ⟨hsame, hnone⟩ | ⟨e, hitem, hone⟩ | ⟨lost, hlagged, hnone⟩
  · rw [hnone, List.append_nil, hsame]
  · rcases Broadcast.receive_eq_item hitem with ⟨hkept, hget, hafter⟩
    rw [h.keeps.getElem?_kept hkept] at hget
    have hthis : ¬ s.Lost (before ++ [a]) e.seq := by
      rw [seq_of_getElem?_eventsIn hget, hlost]
      rintro (hbefore | hv)
      · exact h.not_lost hkept hbefore
      · have := hv.1
        omega
    have hpasses : [e].filter (fun e => ¬ s.Lost (before ++ [a]) e.seq) = [e] := by
      rw [List.filter_eq_self]
      intro e' he'
      rw [List.mem_singleton.mp he']
      exact decide_eq_true hthis
    rw [hone, hafter, List.take_add_one, hget, Option.toList_some, List.filter_append, hpasses]
  · rcases Broadcast.receive_eq_lagged hlagged with ⟨hbehind, hafter⟩
    have hsplit : (eventsIn shown).take v.relay.next = (eventsIn shown).take u.relay.next ++
        ((eventsIn shown).drop u.relay.next).take (v.relay.next - u.relay.next) := by
      rw [← List.take_add, Nat.add_sub_cancel' hnext.1]
    -- Everything that it passes over is lost at this very moment.
    have hgone : (((eventsIn shown).drop u.relay.next).take
        (v.relay.next - u.relay.next)).filter (fun e => ¬ s.Lost (before ++ [a]) e.seq) = [] := by
      rw [List.filter_eq_nil_iff]
      intro e he
      have hseq := seq_of_mem_drop_take he
      rw [decide_eq_true_iff, not_not, hlost]
      exact Or.inl ⟨before, u, shown, List.prefix_refl before, hbefore, hseq.1, by omega⟩
    rw [hnone, hsplit, List.filter_append, hgone]

/-- A step keeps to it. -/
theorem Passing.step (h : s.Passing before u shown) (hbefore : s.run before = some (u, shown))
    (hact : u.act a = some (v, now)) : s.Passing (before ++ [a]) v (shown ++ now) := by
  have hstep := step_of_act hact
  have hnext := (h.next_le hstep).2
  have hring := hstep.ring_eq
  refine ⟨?_, ?_, ?_, ?_, ?_⟩
  · rw [hring.1, h.eventsIn_append]
    exact h.keeps.publishAll _
  · rw [hring.2, h.nextSeq, length_eventsIn, length_eventsIn, noticesIn_append, List.length_append]
  · rw [h.eventsIn_append, List.length_append]
    omega
  · -- What was overwritten before stays overwritten.
    intro first w seen hpre hrun
    rcases List.prefix_concat_iff.mp hpre with rfl | hpre
    · rw [run_append_singleton hbefore hact] at hrun
      cases hrun
      exact le_refl _
    · rw [hring.1]
      exact (h.older first w seen hpre hrun).trans (Broadcast.oldest_le_publishAll _ _)
  · rw [h.emitted_step hbefore hact, h.eventsIn_append, List.take_append_of_le_length hnext]

theorem passing_of_run
    (hrun : (fresh settings subscribers).run actions = some (t, effects)) :
    (fresh settings subscribers).Passing actions t effects := by
  refine run_induction (fun before u shown => Passing _ before u shown) passing_fresh ?_ hrun
  intro before u shown a v now _ hbefore hu hact
  exact hu.step hbefore hact

end Passing

open Classical in
/-- A subscriber that always has room is handed, once the relay has nothing left to
    take, exactly those events that were never lost, in their order. So it is handed
    all of them if never more of them, reports included, were under way to the relay
    than the ring holds. -/
theorem handed_on {settings : Settings} {subscribers : List (String × Nat)}
    (hbuild : Service.build settings subscribers = .ok s)
    (hrun : s.run actions = some (t, effects))
    (hroom : s.Always actions fun u _ => u.relay.HasRoom place)
    (hlistens : t.relay.listening = true) (hidle : t.relay.take = none) :
    handedTo place effects = (eventsIn effects).filter (fun e => ¬ s.Lost actions e.seq) ∧
    (s.Always actions (fun u _ => u.relay.delivery.ring.total - u.relay.next ≤
        u.relay.delivery.ring.size) →
      handedTo place effects = eventsIn effects) := by
  cases eq_fresh_of_build hbuild
  have hpassing := passing_of_run hrun
  -- The relay has come to the end of what was published.
  have hend : t.relay.next = (eventsIn effects).length := by
    refine le_antisymm hpassing.next ?_
    rw [← hpassing.keeps.total]
    rw [Relay.take, if_pos hlistens] at hidle
    split at hidle
    · cases hidle
    · cases hidle
    · rename_i hnone
      exact Broadcast.receive_eq_none hnone
  have hall : handedTo place effects =
      (eventsIn effects).filter fun e => ¬ (fresh settings subscribers).Lost actions e.seq := by
    rw [handedTo_eq_emittedIn hrun hroom, hpassing.emitted, hend, List.take_length]
  refine ⟨hall, fun hfew => ?_⟩
  rw [hall, List.filter_eq_self]
  -- The relay was never further behind than the ring holds, so nothing was overwritten before it.
  intro e _
  rw [decide_eq_true_iff]
  rintro ⟨before, u, shown, hpre, hbefore, hlost⟩
  have hle := hfew before u shown hpre hbefore
  have hold := u.relay.delivery.ring.oldest_eq
  have hnext := hlost.1
  have holdest := hlost.2
  omega

/-- A subscriber gets all events next to one that does not get further than its
    first. -/
theorem handed_on_next_to_stuck :
    let actions : List (ServiceAction Nat) := [.call (.serve (fun _ _ => .ok "api") (some 0)),
      .call (.announceRegistered 0), .call (.attach (fun _ _ => .ok "db") (some 1)),
      .call (.announceRegistered 1), .relay .take, .relay .take, .relay .take]
    ∃ t effects, (fresh .standard [("stuck", 1), ("well", 4)]).run actions = some (t, effects) ∧
      (reportsIn effects).length = 1 ∧ handedTo 1 effects = eventsIn effects := by
  intro actions
  have hbuild : Service.build .standard [("stuck", 1), ("well", 4)] =
      .ok (fresh .standard [("stuck", 1), ("well", 4)] : Service Nat) := rfl
  have hlook : ((fresh .standard [("stuck", 1), ("well", 4)]).run actions).map (fun last =>
      (last.1.relay.listening, last.1.relay.take.isNone, (reportsIn last.2).length)) =
        some (true, true, 1) := by
    decide +kernel
  rcases Option.map_eq_some_iff.mp hlook with ⟨⟨t, effects⟩, hrun, hlast⟩
  simp only [Prod.mk.injEq, Option.isNone_iff_eq_none] at hlast
  rcases hlast with ⟨hlistens, hidle, hone⟩
  have hroom : (fresh .standard [("stuck", 1), ("well", 4)]).Always actions
      (fun u _ => u.relay.HasRoom 1) := always_of_inits (by decide +kernel)
  have hfew : (fresh .standard [("stuck", 1), ("well", 4)]).Always actions (fun u _ =>
      u.relay.delivery.ring.total - u.relay.next ≤ u.relay.delivery.ring.size) :=
    always_of_inits (by decide +kernel)
  exact ⟨t, effects, hrun, hone, (handed_on hbuild hrun hroom hlistens hidle).2 hfew⟩

/-- The report on one subscriber pushes an event out of the ring, and another one does
    not get it, though it always has room and there is never more than one event of
    the service on its way to the relay, which is what the ring holds. -/
theorem report_pushes_out :
    let settings : Settings := { Settings.standard with busCapacity := 1 }
    let actions : List (ServiceAction Nat) := [.call (.attach (fun _ _ => .ok "db") (some 1)),
      .call (.announceRegistered 0), .relay .take, .relay (.pick 0), .relay (.pick 1),
      .relay (.finish 1 .handled), .call (.attach (fun _ _ => .ok "cache") (some 2)),
      .call (.announceRegistered 1), .relay (.finish 0 (.panicked .mute)), .relay .take,
      .relay .take]
    let attached : Event := ⟨⟨.dependencyAttached, some "cache", none, none⟩, 1⟩
    ∃ s t effects, Service.build settings [("loud", 1), ("well", 4)] = .ok s ∧
      s.run actions = some (t, effects) ∧
      s.Always actions (fun u _ => u.relay.HasRoom 1) ∧
      s.Always actions (fun u shown => ((eventsIn shown).drop u.relay.next).countP
        (fun e => !e.kind.isDiagnostic) ≤ u.relay.delivery.ring.size) ∧
      t.relay.listening = true ∧ t.relay.take = none ∧
      attached ∈ eventsIn effects ∧ attached ∉ handedTo 1 effects := by
  intro settings actions attached
  -- The report on the one that panicked takes the only slot, in which the event still was.
  have hlook : ((fresh settings [("loud", 1), ("well", 4)]).run actions).map (fun last =>
      (last.1.relay.listening, last.1.relay.take.isNone,
        decide (attached ∈ eventsIn last.2 ∧ attached ∉ handedTo 1 last.2))) =
          some (true, true, true) := by
    decide +kernel
  rcases Option.map_eq_some_iff.mp hlook with ⟨⟨t, effects⟩, hrun, hlast⟩
  simp only [Prod.mk.injEq, Option.isNone_iff_eq_none, decide_eq_true_eq] at hlast
  rcases hlast with ⟨hlistens, hidle, hmissing⟩
  exact ⟨_, t, effects, rfl, hrun, always_of_inits (by decide +kernel),
    always_of_inits (by decide +kernel), hlistens, hidle, hmissing⟩

end Service

end Steward
