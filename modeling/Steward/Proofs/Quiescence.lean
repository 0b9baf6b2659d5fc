import Steward.Proofs.Relay
import Steward.Proofs.Ring
import Mathlib.Algebra.Order.BigOperators.Group.List
import Mathlib.Algebra.Order.Ring.Nat

/-!
# Coming to Rest

How many reports on subscribers a service can publish, and when it comes to rest.

Reports go onto the ring that the relay listens to, so a report is handed out
like any other event and can lead to further ones. The refusal of a refusal is
not reported, which cuts one loop. A subscriber that breaks off over a report is
reported again, and that loop is not cut: one event and one subscriber are enough
for reports without end (`no_bound_on_reports`).

Nothing else goes round. What a service still owes is counted here by a
potential: for every event the most reports that it can lead to, as long as
nobody breaks off over a report. An event of the service can lead to a refusal,
or to a panic and then to a refusal of the news of it, at every subscriber and
for every subscriber. So a step that publishes a report lowers the potential by
as much, only what the calls publish raises it, and so does every subscriber
that breaks off over a report, once (`Step.due_le`). A second potential counts
the steps of the relay and of the workers. Every such step lowers it, and only
publishing raises it (`Step.stepsLeft_le`).

Summed up over a run this bounds both by the events of the calls, the number of
subscribers, and the number of times that somebody broke off over a report
(`comes_to_rest`).

## Main definitions

* `brokenOverReports`: How often a subscriber broke off over a report.
* `Event.dueAtEach`, `Relay.due`: The reports that an event, or everything that
  is under way, can still lead to.
* `Relay.stepsLeft`: The steps that are left to the relay and the workers.

## Theorems

* `Relay.due_publishAll_le`, `Relay.due_setBox`, `Relay.due_took_le`, `Relay.due_missed`
  and their like for `Relay.stepsLeft`: What each move does to the potentials.
* `Step.due_le`, `Step.stepsLeft_le`: What a step does to the potentials.
* `comes_to_rest`: How many reports and how many steps there are.
* `no_bound_on_reports`: Breaking off over reports, there is no bound.
-/

namespace Steward

variable {ι : Type}

/-- How often a subscriber broke off while it handled a report. -/
def brokenOverReports (effects : List (ServiceEffect ι)) : Nat :=
  effects.countP fun
    | .relay (.shown (.handled _ e (.panicked _))) => e.kind.isDiagnostic
    | _ => false

/-- Whether a step is one of the relay or of a worker, or the end of the service. -/
def ServiceAction.isRelay : ServiceAction ι → Bool
  | .relay _ => true
  | .call _ => false

section Potentials

/-- The reports that an event can lead to at each mailbox that it is offered to,
    among `n` of them: its refusal, which is not reported again, or a panic and the
    refusals of the news of that. -/
def Event.dueAtEach (n : Nat) (e : Event) : Nat :=
  match e.kind with
  | .subscriberOverflow => 0
  | .subscriberPanicked => 1
  | _ => n + 1

/-- The reports that an event in the ring can lead to. -/
def Event.dueInRing (n : Nat) (e : Event) : Nat :=
  n * e.dueAtEach n

/-- The reports that an event can lead to once a mailbox has taken it. -/
def Event.dueInBox (n : Nat) (e : Event) : Nat :=
  if e.kind.isDiagnostic then 0 else n + 1

/-- What a mailbox holds: the event that its worker is busy with, and those that
    wait. -/
def Mailbox.held (m : Mailbox) : List Event :=
  match m.worker with
  | .busy e => e :: m.queue
  | _ => m.queue

/-- The reports that a mailbox can still lead to. -/
def Mailbox.due (n : Nat) (m : Mailbox) : Nat :=
  (m.held.map (Event.dueInBox n)).sum

/-- The reports that all mailboxes can still lead to. -/
def Fanout.due (n : Nat) (f : Fanout) : Nat :=
  (f.boxes.map (Mailbox.due n)).sum

/-- The steps that are left to the worker of a mailbox. -/
def Mailbox.stepsLeft (m : Mailbox) : Nat :=
  2 * m.queue.length + match m.worker with
    | .idle => 1
    | .busy _ => 2
    | .ended => 0

/-- The steps that are left to all workers. -/
def Fanout.stepsLeft (f : Fanout) : Nat :=
  (f.boxes.map Mailbox.stepsLeft).sum

/-- The reports that a relay can still lead to: through the events that it has not
    taken yet, and through the mailboxes. -/
def Relay.due (n : Nat) (r : Relay) : Nat :=
  ((r.delivery.ring.unread r.next).map (Event.dueInRing n)).sum + r.delivery.fanout.due n

/-- The steps that are left to a relay and to the workers behind it. An event that
    was not taken yet stands for taking it and for two steps of every worker. -/
def Relay.stepsLeft (n : Nat) (r : Relay) : Nat :=
  (2 * n + 1) * (r.delivery.ring.total - r.next) + r.delivery.fanout.stepsLeft +
    r.listening.toNat + (!r.released).toNat

end Potentials

section Mailboxes

variable {n : Nat} {m m' : Mailbox} {e : Event} {boxes : List Mailbox} {place : Nat}

theorem Event.dueAtEach_le (n : Nat) (e : Event) : e.dueAtEach n ≤ n + 1 := by
  unfold dueAtEach
  split <;> omega

theorem Event.dueInBox_le_dueAtEach (n : Nat) (e : Event) : e.dueInBox n ≤ e.dueAtEach n := by
  unfold dueInBox dueAtEach
  cases e.kind <;> simp [EventKind.isDiagnostic]

theorem Mailbox.held_post (h : m.post e = .ok m') : m'.held = m.held ++ [e] := by
  unfold post at h
  split at h
  · cases h
  · split at h
    · cases h
    · cases h
      unfold held
      cases m.worker <;> rfl

/-- Offering an event to a mailbox, all told: what the mailbox owes afterwards and
    what is reported. -/
theorem Fanout.due_offer_le (n : Nat) (e : Event) (m : Mailbox) :
    (offer e m).1.due n + (offer e m).2.length ≤ m.due n + e.dueAtEach n := by
  unfold offer
  split
  · rename_i m' hpost
    have hbox := e.dueInBox_le_dueAtEach n
    simp only [Mailbox.due, Mailbox.held_post hpost, List.map_append, List.map_singleton,
      List.sum_append, List.sum_singleton, List.length_nil]
    omega
  · by_cases hover : e.kind = .subscriberOverflow
    · rw [if_pos hover]
      exact Nat.le_add_right _ _
    · rw [if_neg hover]
      -- Any other event leads to one report at least.
      have hone : 1 ≤ e.dueAtEach n := by
        unfold Event.dueAtEach
        split
        · exact absurd ‹_› hover
        · exact le_refl 1
        · exact Nat.le_add_left 1 n
      exact Nat.add_le_add_left hone _

theorem Fanout.stepsLeft_offer_le (e : Event) (m : Mailbox) :
    (offer e m).1.stepsLeft ≤ m.stepsLeft + 2 := by
  unfold offer
  split
  · rename_i m' hpost
    have hqueue := Mailbox.queue_post hpost
    have hworker : m'.worker = m.worker := by
      unfold Mailbox.post at hpost
      split at hpost
      · cases hpost
      · split at hpost <;> cases hpost
        rfl
    rw [Mailbox.stepsLeft, hqueue, hworker, List.length_append, List.length_singleton,
      Mailbox.stepsLeft]
    omega
  · exact Nat.le_add_right _ 2

/-- What holds of every mailbox that an event is offered to holds of all of them. -/
theorem Fanout.due_emit_le (n : Nat) (f : Fanout) (e : Event) :
    (f.emit e).1.due n + (f.emit e).2.length ≤ f.due n + f.boxes.length * e.dueAtEach n := by
  rcases f with ⟨boxes, closing⟩
  -- The induction is on the mailboxes, which are offered the event one by one.
  induction boxes with
  | nil => exact Nat.zero_le _
  | cons m rest ih =>
      have hone := due_offer_le n e m
      simp only [due, emit, List.map_map, List.map_cons, List.sum_cons, List.flatMap_cons,
        List.length_append, List.length_cons, Nat.succ_mul] at ih ⊢
      omega

theorem Fanout.stepsLeft_emit_le (f : Fanout) (e : Event) :
    (f.emit e).1.stepsLeft ≤ f.stepsLeft + 2 * f.boxes.length := by
  rcases f with ⟨boxes, closing⟩
  induction boxes with
  | nil => exact Nat.zero_le _
  | cons m rest ih =>
      have hone := stepsLeft_offer_le e m
      simp only [stepsLeft, emit, List.map_map, List.map_cons, List.sum_cons,
        List.length_cons] at ih ⊢
      omega

/-- The refusals of an event are overflows, and those lead to nothing more. -/
theorem Fanout.due_refusals (n first : Nat) (f : Fanout) (e : Event) :
    ((Notice.stampAll (f.emit e).2 first).map (Event.dueInRing n)).sum = 0 := by
  have hkind : ∀ r ∈ (f.emit e).2, r.kind = .subscriberOverflow := by
    intro r hr
    rcases List.mem_flatMap.mp hr with ⟨m, -, hr⟩
    unfold offer at hr
    split at hr
    · cases hr
    · split at hr
      · cases hr
      · rw [List.mem_singleton.mp hr]
        rfl
  rw [List.sum_eq_zero_iff]
  intro x hx
  rcases List.mem_map.mp hx with ⟨event, hevent, rfl⟩
  -- An event has the kind of its notice.
  have hnotice : event.toNotice ∈ (f.emit e).2 := by
    rw [← Notice.map_toNotice_stampAll (f.emit e).2 first]
    exact List.mem_map_of_mem hevent
  rw [Event.dueInRing, Event.dueAtEach, hkind _ hnotice, Nat.mul_zero]

theorem Mailbox.due_pick (n : Nat) (h : m.pick = some (e, m')) : m'.due n = m.due n := by
  rcases m with ⟨name, capacity, queue, worker⟩
  unfold pick at h
  split at h
  · rename_i hworker hqueue
    cases h
    dsimp only at hworker hqueue
    rw [hworker, hqueue]
    rfl
  · cases h

theorem Mailbox.stepsLeft_pick (h : m.pick = some (e, m')) :
    m'.stepsLeft + 1 = m.stepsLeft := by
  rcases m with ⟨name, capacity, queue, worker⟩
  unfold pick at h
  split at h
  · rename_i hworker hqueue
    cases h
    dsimp only at hworker hqueue
    rw [hworker, hqueue, stepsLeft, stepsLeft]
    dsimp only [List.length_cons]
    omega
  · cases h

theorem Mailbox.due_finish_le (n : Nat) (how : Handling) (hbusy : m.worker = .busy e) :
    (m.finish how).1.due n + e.dueInBox n ≤ m.due n := by
  have hheld : m.due n = e.dueInBox n + (m.queue.map (Event.dueInBox n)).sum := by
    rw [due, held, hbusy]
    rfl
  cases how with
  | handled | panicked p =>
      rw [hheld, Nat.add_comm]
      exact le_refl _
  | died =>
      rw [hheld, Nat.add_comm]
      exact Nat.add_le_add_left (Nat.zero_le _) _

theorem Mailbox.stepsLeft_finish_le (how : Handling) (hbusy : m.worker = .busy e) :
    (m.finish how).1.stepsLeft + 1 ≤ m.stepsLeft := by
  have hleft : m.stepsLeft = 2 * m.queue.length + 2 := by rw [stepsLeft, hbusy]
  cases how with
  | handled | panicked p =>
      rw [hleft]
      exact le_refl _
  | died =>
      rw [hleft]
      exact Nat.succ_le_succ (Nat.zero_le _)

theorem Mailbox.due_close (n : Nat) (hidle : m.worker = .idle) (hempty : m.queue = []) :
    m.close.due n = m.due n := by
  rcases m with ⟨name, capacity, queue, worker⟩
  dsimp only at hidle hempty
  rw [hidle, hempty]
  rfl

theorem Mailbox.stepsLeft_close (hidle : m.worker = .idle) (hempty : m.queue = []) :
    m.close.stepsLeft + 1 = m.stepsLeft := by
  rcases m with ⟨name, capacity, queue, worker⟩
  dsimp only at hidle hempty
  rw [hidle, hempty]
  rfl

/-- A sum over all mailboxes after one was changed. -/
theorem sum_map_set (weight : Mailbox → Nat) (h : boxes[place]? = some m) (m' : Mailbox) :
    ((boxes.set place m').map weight).sum + weight m = (boxes.map weight).sum + weight m' := by
  induction boxes generalizing place with
  | nil => cases h
  | cons b rest ih =>
      cases place with
      | zero =>
          cases h
          simp only [List.set_cons_zero, List.map_cons, List.sum_cons]
          omega
      | succ place =>
          have hrest := ih h
          simp only [List.set_cons_succ, List.map_cons, List.sum_cons]
          omega

variable {d : Delivery}

theorem Delivery.due_setBox (n : Nat) (h : d.fanout.boxes[place]? = some m) (m' : Mailbox) :
    (d.setBox place m').fanout.due n + m.due n = d.fanout.due n + m'.due n :=
  sum_map_set (Mailbox.due n) h m'

theorem Delivery.stepsLeft_setBox (h : d.fanout.boxes[place]? = some m) (m' : Mailbox) :
    (d.setBox place m').fanout.stepsLeft + m.stepsLeft = d.fanout.stepsLeft + m'.stepsLeft :=
  sum_map_set Mailbox.stepsLeft h m'

end Mailboxes

namespace Relay

variable {r : Relay} {n place next lost : Nat} {m : Mailbox} {e : Event}

/-- What is published owes what its events can lead to in the ring. -/
theorem due_publishAll_le (n : Nat) (r : Relay) (notices : List Notice) :
    ({ r with delivery := r.delivery.publishAll notices } : Relay).due n ≤
      r.due n + ((r.delivery.stamped notices).map (Event.dueInRing n)).sum := by
  -- Only what was before the relay or is new is before it now.
  have hsub := r.delivery.ring.unread_publishAll_sublist r.next (r.delivery.stamped notices)
  have hle := (hsub.map (Event.dueInRing n)).sum_le_sum fun _ _ => Nat.zero_le _
  rw [List.map_append, List.sum_append] at hle
  simp only [due, Delivery.ring_publishAll, Delivery.fanout_publishAll]
  omega

theorem due_setBox (n : Nat) (hbox : r.delivery.fanout.boxes[place]? = some m) (m' : Mailbox) :
    ({ r with delivery := r.delivery.setBox place m' } : Relay).due n + m.due n =
      r.due n + m'.due n := by
  have hset := Delivery.due_setBox n hbox m'
  have hring : (r.delivery.setBox place m').ring = r.delivery.ring := rfl
  simp only [due, hring]
  omega

/-- An event that is handed out was paid for as an event of the ring, at every mailbox. -/
theorem due_took_le (hn : r.delivery.fanout.boxes.length = n)
    (hnext : r.delivery.ring.receive r.next = (some (.item e), next)) :
    ({ r with delivery := r.delivery.emit e, next } : Relay).due n +
      (r.delivery.fanout.emit e).2.length ≤ r.due n := by
  have htaken : ((r.delivery.ring.unread r.next).map (Event.dueInRing n)).sum =
      n * e.dueAtEach n + ((r.delivery.ring.unread next).map (Event.dueInRing n)).sum := by
    rw [Broadcast.unread_of_item hnext]
    rfl
  have hemit := Fanout.due_emit_le n r.delivery.fanout e
  rw [hn] at hemit
  -- The refusals are published after it, and owe nothing themselves.
  have hpublished := due_publishAll_le n
    { r with delivery := { r.delivery with fanout := (r.delivery.fanout.emit e).1 }, next }
    (r.delivery.fanout.emit e).2
  rw [Delivery.stamped, Fanout.due_refusals, Nat.add_zero] at hpublished
  refine (Nat.add_le_add_right hpublished _).trans ?_
  rw [due, due, htaken]
  dsimp only
  omega

/-- What was lost was not before the relay any more. -/
theorem due_missed (n : Nat)
    (hnext : r.delivery.ring.receive r.next = (some (.lagged lost), next)) :
    ({ r with next } : Relay).due n = r.due n := by
  rw [due, due, Broadcast.unread_of_lagged hnext]

/-- What is published and not taken gives steps for taking it and for handling it. -/
theorem stepsLeft_publishAll_le (n : Nat) (r : Relay) (notices : List Notice) :
    ({ r with delivery := r.delivery.publishAll notices } : Relay).stepsLeft n ≤
      r.stepsLeft n + (2 * n + 1) * notices.length := by
  have htotal : r.delivery.ring.total + notices.length - r.next ≤
      r.delivery.ring.total - r.next + notices.length := by
    omega
  have hring := Nat.mul_le_mul_left (2 * n + 1) htotal
  rw [Nat.mul_add] at hring
  simp only [stepsLeft, listening, Delivery.total_publishAll, Delivery.fanout_publishAll]
  omega

/-- A mailbox that has a step less to go is a step less for all. -/
theorem stepsLeft_setBox_lt (n : Nat) {m' : Mailbox}
    (hbox : r.delivery.fanout.boxes[place]? = some m) (hless : m'.stepsLeft + 1 ≤ m.stepsLeft) :
    ({ r with delivery := r.delivery.setBox place m' } : Relay).stepsLeft n + 1 ≤
      r.stepsLeft n := by
  have hset := Delivery.stepsLeft_setBox hbox m'
  have hring : (r.delivery.setBox place m').ring = r.delivery.ring := rfl
  have hclosing : (r.delivery.setBox place m').fanout.closing = r.delivery.fanout.closing := rfl
  simp only [stepsLeft, listening, hring, hclosing]
  omega

/-- An event that is handed out is one less in the ring, and two steps for every worker. -/
theorem stepsLeft_took_lt (hn : r.delivery.fanout.boxes.length = n)
    (hnext : r.delivery.ring.receive r.next = (some (.item e), next)) :
    ({ r with delivery := r.delivery.emit e, next } : Relay).stepsLeft n + 1 ≤
      r.stepsLeft n + (2 * n + 1) * (r.delivery.fanout.emit e).2.length := by
  have hpublished := stepsLeft_publishAll_le n
    { r with delivery := { r.delivery with fanout := (r.delivery.fanout.emit e).1 }, next }
    (r.delivery.fanout.emit e).2
  refine (Nat.add_le_add_right hpublished 1).trans ?_
  have hlt := Broadcast.lt_total_of_item hnext
  have hafter := (Broadcast.receive_eq_item hnext).2.2
  have hone : r.delivery.ring.total - r.next = r.delivery.ring.total - next + 1 := by omega
  have hemit := Fanout.stepsLeft_emit_le r.delivery.fanout e
  have hclosing : (r.delivery.fanout.emit e).1.closing = r.delivery.fanout.closing := rfl
  rw [hn] at hemit
  simp only [stepsLeft, listening, hone, hclosing, Nat.mul_add (2 * n + 1), Nat.mul_one]
  omega

/-- At least one event is passed over. -/
theorem stepsLeft_missed_lt (n : Nat)
    (hnext : r.delivery.ring.receive r.next = (some (.lagged lost), next)) :
    ({ r with next } : Relay).stepsLeft n + 1 ≤ r.stepsLeft n := by
  have hlost := Broadcast.receive_eq_lagged hnext
  have hold := r.delivery.ring.oldest_le_total
  have hone : r.delivery.ring.total - next + 1 ≤ r.delivery.ring.total - r.next := by omega
  have hring := Nat.mul_le_mul_left (2 * n + 1) hone
  rw [Nat.mul_add, Nat.mul_one] at hring
  simp only [stepsLeft, listening]
  omega

/-- A relay that has stopped listening does not begin again. -/
theorem stepsLeft_retired (n : Nat) (hlistens : r.listening = true) :
    ({ r with delivery := { r.delivery with fanout := r.delivery.fanout.shutdown } } :
      Relay).stepsLeft n + 1 = r.stepsLeft n := by
  have hclosed : ({ r with delivery :=
      { r.delivery with fanout := r.delivery.fanout.shutdown } } : Relay).listening = false :=
    Bool.and_false _
  have hboxes : r.delivery.fanout.shutdown.stepsLeft = r.delivery.fanout.stepsLeft := rfl
  rw [stepsLeft, stepsLeft, hclosed, hlistens]
  simp only [hboxes, Bool.toNat_false, Bool.toNat_true]
  omega

/-- A service goes once. -/
theorem stepsLeft_release (n : Nat) (hgone : r.released = false) :
    r.release.stepsLeft n + 1 = r.stepsLeft n := by
  simp only [stepsLeft, release, listening, hgone, Bool.not_true, Bool.not_false,
    Bool.toNat_false, Bool.toNat_true]

end Relay

namespace Service

variable {s t : Service ι} {a : ServiceAction ι} {effects : List (ServiceEffect ι)} {n : Nat}

section Observed

variable (effects more : List (ServiceEffect ι))

theorem brokenOverReports_append :
    brokenOverReports (effects ++ more) = brokenOverReports effects + brokenOverReports more :=
  List.countP_append

theorem brokenOverReports_published (events : List Event) :
    brokenOverReports (events.map fun e =>
      (.relay (.shown (.published e)) : ServiceEffect ι)) = 0 := by
  rw [brokenOverReports, List.countP_map, List.countP_eq_zero]
  exact fun _ _ => nofun

end Observed

/-- The report on a handling is paid for by the event, or by the subscriber that
    broke off over a report. -/
theorem due_finished_le (d : Delivery) (m : Mailbox) (e : Event) (place : Nat) (how : Handling) :
    ((d.stamped (m.finish how).2.toList).map (Event.dueInRing n)).sum +
      (m.finish how).2.toList.length ≤ e.dueInBox n + (n + 1) *
        brokenOverReports [(.relay (.shown (.handled place e how)) : ServiceEffect ι)] := by
  cases how with
  | handled | died => exact Nat.zero_le _
  | panicked p =>
      -- One report, and its refusal at every mailbox.
      have hdue : ((d.stamped (m.finish (.panicked p)).2.toList).map (Event.dueInRing n)).sum = n :=
        Nat.mul_one n
      rw [hdue]
      by_cases hreport : e.kind.isDiagnostic = true
      · have hbroken : brokenOverReports
            [(.relay (.shown (.handled place e (.panicked p))) : ServiceEffect ι)] = 1 := by
          rw [brokenOverReports, List.countP_singleton, if_pos hreport]
        rw [hbroken, Nat.mul_one]
        exact Nat.le_add_left _ _
      · rw [Event.dueInBox, if_neg hreport]
        exact Nat.le_add_right _ _

/-- What calls publish leads to no more than an event can. -/
theorem due_stamped_le (n : Nat) (d : Delivery) (notices : List Notice) :
    ((d.stamped notices).map (Event.dueInRing n)).sum ≤ n * (n + 1) * notices.length := by
  have hle := List.sum_le_card_nsmul ((d.stamped notices).map (Event.dueInRing n))
    (n * (n + 1)) (fun x hx => by
      rcases List.mem_map.mp hx with ⟨e, -, rfl⟩
      exact Nat.mul_le_mul_left n (e.dueAtEach_le n))
  rw [List.length_map, Delivery.stamped, Notice.length_stampAll, Nat.nsmul_eq_mul] at hle
  rw [Nat.mul_comm (n * (n + 1))]
  exact hle

/-- The end of a handling rids the mailbox of the event, and that pays for the report
    on it. -/
theorem due_finish_le {r : Relay} {place : Nat} {m : Mailbox} {e : Event}
    (hbox : r.delivery.fanout.boxes[place]? = some m) (hbusy : m.worker = .busy e)
    (how : Handling) :
    ({ r with
        delivery := (r.delivery.setBox place (m.finish how).1).publishAll (m.finish how).2.toList } :
      Relay).due n + (m.finish how).2.toList.length ≤ r.due n + (n + 1) *
        brokenOverReports [(.relay (.shown (.handled place e how)) : ServiceEffect ι)] := by
  have hpublished := Relay.due_publishAll_le n
    { r with delivery := r.delivery.setBox place (m.finish how).1 } (m.finish how).2.toList
  have hset := Relay.due_setBox n hbox (m.finish how).1
  have hfinish := Mailbox.due_finish_le n how hbusy
  have hreport := due_finished_le (ι := ι) (n := n) (r.delivery.setBox place (m.finish how).1) m e
    place how
  dsimp only at hpublished
  omega

/-- A step that publishes reports lowers what is due by as much. Only what calls
    publish raises it, and a subscriber that breaks off over a report. -/
theorem Step.due_le (h : Step s a t effects)
    (hn : s.relay.delivery.fanout.boxes.length = n) :
    t.relay.due n + (reportsIn effects).length ≤
      s.relay.due n + n * (n + 1) * (announcedIn effects).length +
        (n + 1) * brokenOverReports effects := by
  have hcount := length_noticesIn effects
  cases h with
  | @called b system shown hact =>
      -- What is published owes what an event can, and the calls publish all of it.
      rw [reportsIn_call, List.length_nil, Nat.add_zero, noticesIn_call] at hcount
      rw [reportsIn_call, List.length_nil, Nat.add_zero, ← hcount, delivery_publishAll]
      have hpublished := Relay.due_publishAll_le n s.relay (publishedIn shown)
      have hnew := due_stamped_le n s.relay.delivery (publishedIn shown)
      exact Nat.le_add_right_of_le (hpublished.trans (Nat.add_le_add_left hnew _))
  | gone hgone => exact Nat.le_add_right _ _
  | moved hmove =>
      rw [announcedIn_relay, List.length_nil, Nat.zero_add] at hcount
      rw [announcedIn_relay, ← hcount]
      cases hmove with
      | took hlistens hnext =>
          rw [noticesIn_took]
          exact Nat.le_add_right_of_le (Relay.due_took_le hn hnext)
      | missed hlistens hnext => exact Nat.le_add_right_of_le (Relay.due_missed n hnext).le
      | @picked place m m' e hbox hpick =>
          -- The event stays in its mailbox, now with the worker.
          have hset := Relay.due_setBox n hbox m'
          rw [Mailbox.due_pick n hpick, Nat.add_right_cancel_iff] at hset
          exact Nat.le_add_right_of_le hset.le
      | finished hbox hbusy =>
          rw [noticesIn_finished, shown_of_finished, brokenOverReports_append,
            brokenOverReports_published]
          exact due_finish_le hbox hbusy _
      | retired hlistens hgone => exact Nat.le_add_right _ _
      | @closed place m hbox hclosing hidle hempty =>
          -- A worker that has nothing to do owes nothing.
          have hset := Relay.due_setBox n hbox m.close
          rw [Mailbox.due_close n hidle hempty, Nat.add_right_cancel_iff] at hset
          exact Nat.le_add_right_of_le hset.le

/-- A step of the relay or of a worker lowers the number of steps left. Only
    publishing raises it. -/
theorem Step.stepsLeft_le (h : Step s a t effects)
    (hn : s.relay.delivery.fanout.boxes.length = n) :
    t.relay.stepsLeft n + a.isRelay.toNat ≤
      s.relay.stepsLeft n + (2 * n + 1) * (noticesIn effects).length := by
  cases h with
  | called hact =>
      rw [noticesIn_call, delivery_publishAll]
      exact Relay.stepsLeft_publishAll_le n s.relay _
  | gone hgone => exact Nat.le_add_right_of_le (Relay.stepsLeft_release n hgone).le
  | moved hmove =>
      cases hmove with
      | took hlistens hnext =>
          rw [noticesIn_took]
          exact Relay.stepsLeft_took_lt hn hnext
      | missed hlistens hnext =>
          exact Nat.le_add_right_of_le (Relay.stepsLeft_missed_lt n hnext)
      | picked hbox hpick =>
          -- An event in the queue stands for two steps, and one of them is done.
          exact Nat.le_add_right_of_le
            (Relay.stepsLeft_setBox_lt n hbox (Mailbox.stepsLeft_pick hpick).le)
      | @finished place m e how hbox hbusy =>
          rw [noticesIn_finished]
          -- A step for the event in hand is done, and its report costs what
          -- is counted for one notice.
          have hless := Relay.stepsLeft_setBox_lt n hbox (Mailbox.stepsLeft_finish_le how hbusy)
          have hpublished := Relay.stepsLeft_publishAll_le n
            { s.relay with delivery := s.relay.delivery.setBox place (m.finish how).1 }
            (m.finish how).2.toList
          calc _ ≤ _ + 1 := Nat.add_le_add_right hpublished 1
            _ = _ := Nat.add_right_comm _ _ 1
            _ ≤ _ := Nat.add_le_add_right hless _
      | retired hlistens hgone =>
          exact Nat.le_add_right_of_le (Relay.stepsLeft_retired n hlistens).le
      | closed hbox hclosing hidle hempty =>
          exact Nat.le_add_right_of_le
            (Relay.stepsLeft_setBox_lt n hbox (Mailbox.stepsLeft_close hidle hempty).le)

theorem Step.length_boxes (h : Step s a t effects) :
    t.relay.delivery.fanout.boxes.length = s.relay.delivery.fanout.boxes.length := by
  cases h with
  | called hact => rw [delivery_publishAll, Delivery.fanout_publishAll]
  | gone hgone => rfl
  | moved hmove =>
      cases hmove with
      | took hlistens hnext =>
          dsimp only
          rw [Delivery.fanout_emit, Fanout.boxes_emit, List.length_map]
      | missed hlistens hnext | retired hlistens hgone => rfl
      | picked hbox hpick => exact List.length_set
      | closed hbox hclosing hidle hempty => exact List.length_set
      | finished hbox hbusy =>
          dsimp only
          rw [Delivery.fanout_publishAll]
          exact List.length_set

section Fresh

variable {settings : Settings} {subscribers : List (String × Nat)}

/-- A service that begins owes nothing. -/
theorem due_fresh (n : Nat) : (fresh settings subscribers : Service ι).relay.due n = 0 := by
  have hboxes : (Fanout.ofSubscribers subscribers).due n = 0 := by
    rw [Fanout.due, Fanout.ofSubscribers, List.map_map, List.sum_eq_zero_iff]
    intro x hx
    rcases List.mem_map.mp hx with ⟨subscriber, -, rfl⟩
    rfl
  exact (congrArg (0 + ·) hboxes).trans (Nat.zero_add 0)

/-- At the beginning every worker can end, the relay can stop listening, and the
    service can go. -/
theorem stepsLeft_fresh_le (ι : Type) (settings : Settings) (subscribers : List (String × Nat))
    (n : Nat) :
    (fresh settings subscribers : Service ι).relay.stepsLeft n ≤ subscribers.length + 2 := by
  have hboxes : (Fanout.ofSubscribers subscribers).stepsLeft = subscribers.length := by
    rw [Fanout.stepsLeft, Fanout.ofSubscribers, List.map_map]
    have hone : Mailbox.stepsLeft ∘ (fun x : String × Nat => Mailbox.new x.1 x.2) =
        fun _ => 1 := rfl
    rw [hone, List.map_const', List.sum_replicate, Nat.nsmul_eq_mul, Nat.mul_one]
  have hlistens := (fresh settings subscribers : Service ι).relay.listening.toNat_le
  have hstays := (!(fresh settings subscribers : Service ι).relay.released).toNat_le
  have hring : (Broadcast.ofCapacity settings.usedCapacity.toNat : Broadcast Event).total - 0 = 0 :=
    rfl
  simp only [Relay.stepsLeft, fresh, hboxes, hring] at hlistens hstays ⊢
  omega

variable {actions : List (ServiceAction ι)}

/-- What holds of one step summed up over a run. -/
theorem due_and_stepsLeft_of_run (hn : subscribers.length = n)
    (hrun : (fresh settings subscribers).run actions = some (t, effects)) :
    t.relay.delivery.fanout.boxes.length = n ∧
    t.relay.due n + (reportsIn effects).length ≤
      n * (n + 1) * (announcedIn effects).length + (n + 1) * brokenOverReports effects ∧
    t.relay.stepsLeft n + actions.countP ServiceAction.isRelay ≤
      n + 2 + (2 * n + 1) * (noticesIn effects).length := by
  refine run_induction (fun actions t effects =>
    t.relay.delivery.fanout.boxes.length = n ∧
    t.relay.due n + (reportsIn effects).length ≤
      n * (n + 1) * (announcedIn effects).length + (n + 1) * brokenOverReports effects ∧
    t.relay.stepsLeft n + actions.countP ServiceAction.isRelay ≤
      n + 2 + (2 * n + 1) * (noticesIn effects).length) ?_ ?_ hrun
  · -- Nothing is due at first, and two steps end the relay and one each of the workers.
    refine ⟨(List.length_map _).trans hn, ?_, ?_⟩
    · rw [due_fresh]
      exact Nat.zero_le _
    · have hfirst := stepsLeft_fresh_le ι settings subscribers n
      rw [hn] at hfirst
      exact hfirst
  · intro before u shown a v now _ _ hu hact
    rcases hu with ⟨hboxes, hdue, hleft⟩
    have hstep := step_of_act hact
    -- Both sides grow by what is seen of the step.
    have hnextDue := hstep.due_le hboxes
    have hnextLeft := hstep.stepsLeft_le hboxes
    refine ⟨hstep.length_boxes.trans hboxes, ?_, ?_⟩
    · rw [reportsIn_append, announcedIn_append, brokenOverReports_append, List.length_append,
        List.length_append, Nat.mul_add (n * (n + 1)), Nat.mul_add (n + 1)]
      omega
    · have hcount : (before ++ [a]).countP ServiceAction.isRelay =
          before.countP ServiceAction.isRelay + a.isRelay.toNat := by
        rw [List.countP_append, List.countP_singleton]
        cases a.isRelay <;> rfl
      rw [hcount, noticesIn_append, List.length_append, Nat.mul_add]
      omega

end Fresh

/-- A service comes to rest. The reports on subscribers are bounded by what the calls
    publish, by the number of subscribers, and by how often one of them broke off over
    a report; and so are the steps of the relay and of the workers. -/
theorem comes_to_rest {settings : Settings} {subscribers : List (String × Nat)}
    {actions : List (ServiceAction ι)} (hbuild : Service.build settings subscribers = .ok s)
    (hrun : s.run actions = some (t, effects)) (hn : subscribers.length = n) :
    (reportsIn effects).length ≤
      (n + 1) * (n * (announcedIn effects).length + brokenOverReports effects) ∧
    actions.countP ServiceAction.isRelay ≤
      n + 2 + (2 * n + 1) * ((announcedIn effects).length +
        (n + 1) * (n * (announcedIn effects).length + brokenOverReports effects)) := by
  cases eq_fresh_of_build hbuild
  rcases due_and_stepsLeft_of_run hn hrun with ⟨-, hdue, hleft⟩
  have hreports : (reportsIn effects).length ≤
      (n + 1) * (n * (announcedIn effects).length + brokenOverReports effects) := by
    rw [Nat.mul_add, ← Nat.mul_assoc, Nat.mul_comm (n + 1) n]
    omega
  refine ⟨hreports, ?_⟩
  -- The steps are bounded by what is published, and the reports are a part of that.
  have hnotices : (2 * n + 1) * (noticesIn effects).length ≤
      (2 * n + 1) * ((announcedIn effects).length +
        (n + 1) * (n * (announcedIn effects).length + brokenOverReports effects)) := by
    rw [length_noticesIn]
    exact Nat.mul_le_mul_left _ (Nat.add_le_add_left hreports _)
  omega

/-- One subscriber takes nothing after its first event, and the other breaks off over
    its first one. -/
theorem comes_to_rest_stuck_and_loud :
    let actions : List (ServiceAction Nat) := [.call (.serve (fun _ _ => .ok "api") (some 0)),
      .call (.announceRegistered 0), .call (.attach (fun _ _ => .ok "db") (some 1)),
      .call (.announceRegistered 1), .relay .take, .relay .take, .relay (.pick 1),
      .relay (.finish 1 (.panicked .mute)), .relay .take, .relay .take]
    ∃ t effects, (fresh .standard [("stuck", 1), ("loud", 8)]).run actions = some (t, effects) ∧
      (announcedIn effects).length = 2 ∧ brokenOverReports effects = 0 ∧
      (reportsIn effects).length ≤ 12 ∧ actions.countP ServiceAction.isRelay ≤ 74 := by
  intro actions
  have hlook : ((fresh .standard [("stuck", 1), ("loud", 8)]).run actions).map
      (fun last => ((announcedIn last.2).length, brokenOverReports last.2)) = some (2, 0) := by
    decide +kernel
  rcases Option.map_eq_some_iff.mp hlook with ⟨⟨t, effects⟩, hrun, hcounts⟩
  rcases Prod.mk.inj hcounts with ⟨hannounced, hbroken⟩
  have hbuild : Service.build .standard [("stuck", 1), ("loud", 8)] =
      .ok (fresh .standard [("stuck", 1), ("loud", 8)] : Service Nat) := rfl
  have hrest := comes_to_rest hbuild hrun rfl
  rw [hannounced, hbroken] at hrest
  exact ⟨t, effects, hrun, hannounced, hbroken, hrest⟩

/-- A service at rest but for one event, with one subscriber that waits for it. -/
structure Echoing (s : Service ι) : Prop where
  present : s.relay.present = true
  closing : s.relay.delivery.fanout.closing = false
  unread : ∃ e, s.relay.delivery.ring.receive s.relay.next = (some (.item e), s.relay.next + 1)
  last : s.relay.next + 1 = s.relay.delivery.ring.total
  waits : ∃ m, s.relay.delivery.fanout.boxes = [m] ∧ m.worker = .idle ∧ m.queue = [] ∧
    0 < m.capacity

/-- The subscriber gets the event and breaks off over it. Then the news of that is the
    event that it waits for. -/
theorem Echoing.again (h : s.Echoing) :
    ∃ t effects, s.run [.relay .take, .relay (.pick 0), .relay (.finish 0 (.panicked .mute))] =
      some (t, effects) ∧ t.Echoing ∧ (announcedIn effects).length = 0 ∧
        (reportsIn effects).length = 1 := by
  rcases s with ⟨system, ⟨⟨ring, nextSeq, ⟨boxes, closing⟩⟩, next, present, released⟩⟩
  rcases h with ⟨rfl, rfl, ⟨e, hunread⟩, hlast, ⟨⟨name, capacity, queue, worker⟩, hboxes, rfl,
    rfl, hcapacity⟩⟩
  dsimp only at hunread hlast hboxes hcapacity
  subst hboxes
  have hpost : (⟨name, capacity, [], .idle⟩ : Mailbox).post e =
      .ok ⟨name, capacity, [e], .idle⟩ := by
    simp [Mailbox.post, Nat.not_le.mpr hcapacity]
  -- The relay hands the report to the one subscriber, whose queue is empty.
  have htake : (⟨system, ⟨⟨ring, nextSeq, ⟨[⟨name, capacity, [], .idle⟩], false⟩⟩, next, true,
      released⟩⟩ : Service ι).act (.relay .take) = some (⟨system, ⟨⟨ring, nextSeq,
        ⟨[⟨name, capacity, [e], .idle⟩], false⟩⟩, next + 1, true, released⟩⟩,
          [.relay (.emitted e), .relay (.shown (.accepted 0 e))]) := by
    simp [act, Relay.act, Relay.take, Relay.listening, hunread, Delivery.act, Delivery.emit,
      Delivery.offers, Fanout.emit, Fanout.offer, hpost, Delivery.stamped, Notice.stampAll]
  -- It panics over it, and the report on that is the next one.
  have hrest : ∃ t effects, (⟨system, ⟨⟨ring, nextSeq, ⟨[⟨name, capacity, [e], .idle⟩], false⟩⟩,
      next + 1, true, released⟩⟩ : Service ι).run
        [.relay (.pick 0), .relay (.finish 0 (.panicked .mute))] = some (t, effects) ∧
          t.Echoing ∧ (announcedIn effects).length = 0 ∧ (reportsIn effects).length = 1 := by
    refine ⟨_, _, rfl, ⟨rfl, rfl, ?_, congrArg (· + 1) hlast,
      ⟨_, rfl, rfl, rfl, hcapacity⟩⟩, rfl, rfl⟩
    -- The relay had nothing before it when the news was published.
    dsimp only
    rw [hlast]
    exact ⟨_, ring.receive_publish_total _⟩
  rcases hrest with ⟨t, effects, hrest, ht, hquiet, hone⟩
  exact ⟨t, _, run_cons htake hrest, ht, hquiet, hone⟩

/-- The events of the calls and the number of subscribers do not bound the reports:
    one event and one subscriber are enough for any number of them. -/
theorem no_bound_on_reports : ¬ ∃ bound : Nat → Nat → Nat,
    ∀ (settings : Settings) (subscribers : List (String × Nat)) (s t : Service Nat)
      (actions : List (ServiceAction Nat)) (effects : List (ServiceEffect Nat)),
      Service.build settings subscribers = .ok s → s.run actions = some (t, effects) →
        (reportsIn effects).length ≤ bound (announcedIn effects).length subscribers.length := by
  rintro ⟨bound, hbound⟩
  -- Once round for every report, as often as one likes.
  have hround : ∀ (k : Nat) (s : Service Nat), s.Echoing → ∃ actions t effects,
      s.run actions = some (t, effects) ∧ (announcedIn effects).length = 0 ∧
        (reportsIn effects).length = k := by
    intro k
    induction k with
    | zero => exact fun s _ => ⟨[], s, [], rfl, rfl, rfl⟩
    | succ k ih =>
        intro s hs
        rcases hs.again with ⟨u, shown, hfirst, hu, hquiet, hone⟩
        rcases ih u hu with ⟨actions, t, effects, hrun, hquiet', hk⟩
        refine ⟨_, t, _, run_append hfirst hrun, ?_, ?_⟩
        · rw [announcedIn_append, List.length_append, hquiet, hquiet']
        · rw [reportsIn_append, List.length_append, hone, hk, Nat.add_comm]
  have hbuild : Service.build .standard [("echo", 1)] =
      .ok (fresh .standard [("echo", 1)] : Service Nat) := rfl
  -- One event is before the relay once a server was registered.
  have hserve : ∃ t effects, (fresh .standard [("echo", 1)]).run
      [.call (.serve (fun _ _ => .ok "api") (some 0)), .call (.announceRegistered 0)] =
        some (t, effects) ∧ t.Echoing ∧ (announcedIn effects).length = 1 ∧
          (reportsIn effects).length = 0 :=
    ⟨_, _, rfl, ⟨rfl, rfl, ⟨_, Broadcast.receive_publish_total _ _⟩, rfl,
      ⟨_, rfl, rfl, rfl, Nat.one_pos⟩⟩, rfl, rfl⟩
  rcases hserve with ⟨u, shown, hserve, hu, hone, hnone⟩
  rcases hround (bound 1 1 + 1) u hu with ⟨actions, t, effects, hrun, hquiet, hmany⟩
  have hle := hbound _ _ _ _ _ _ hbuild (run_append hserve hrun)
  rw [reportsIn_append, announcedIn_append, List.length_append, List.length_append, hone, hnone,
    hquiet, hmany] at hle
  have hover : bound 1 1 < 0 + (bound 1 1 + 1) := by omega
  exact absurd hle (Nat.not_le.mpr hover)

end Service

end Steward
