import Steward.Proofs.Relay
import Steward.Proofs.Ring
import Mathlib.Algebra.GroupWithZero.Nat
import Mathlib.Data.List.Infix

/-!
# What Those Who Listen Were Told

What a receiver gets off the ring, and what a worker gets out of its queue.

Whoever takes something off the ring is told what the ring has for it, or how much
of that was lost. So what it was told accounts for everything between the place where
it came and the place where it is, item by item or by the number of those that were
lost in a row (`Accounts`). This holds of the relay and of every other receiver alike,
and all that there is to say of the order of events follows from it: what has arrived
is a part of what was published, in the order in which it was.

From the relay on an event can only get lost. What a worker takes up in a step and
what waits for it afterwards was waiting for it before, or is handed out in that step
(`Step.queue_sublist`).

## Main definitions

* `Accounts`: What a receiver was told accounts for what was published.
* `Follows`: So it does from its first place up to the next one.
* `toldToRelay`, `pickedBy`: What the relay is told, and what a worker takes up.

## Theorems

* `Accounts.length_eq`: What has not arrived was announced as lost.
* `Follows.receive`: A receiver that takes something accounts for it.
* `Step.told`: What a step tells the relay.
* `Step.queue_sublist`: What a worker takes up was handed out.
-/

namespace Steward

variable {ι α : Type}

section Accounts

/-- The items among what a receiver was told. -/
def itemsIn (got : List (Received α)) : List α :=
  got.filterMap fun
    | .item a => some a
    | _ => none

/-- How many items were lost to a receiver, by what it was told. -/
def lossIn (got : List (Received α)) : Nat :=
  (got.map fun
    | .lagged lost => lost
    | _ => 0).sum

/-- What a receiver was told accounts for these items, in their order: an item for
    itself, and the news of a loss for as many in a row as were lost. -/
inductive Accounts : List (Received α) → List α → Prop where
  | nil : Accounts [] []
  | item {got : List (Received α)} {items : List α} (h : Accounts got items) (a : α) :
    Accounts (got ++ [.item a]) (items ++ [a])
  | lagged {got : List (Received α)} {items : List α} (h : Accounts got items) (lost : List α) :
    Accounts (got ++ [.lagged lost.length]) (items ++ lost)

variable {got : List (Received α)} {items : List α} {x : Received α} {first next after : Nat}

theorem itemsIn_append (got more : List (Received α)) :
    itemsIn (got ++ more) = itemsIn got ++ itemsIn more :=
  List.filterMap_append

theorem lossIn_append (got more : List (Received α)) :
    lossIn (got ++ more) = lossIn got + lossIn more := by
  rw [lossIn, List.map_append, List.sum_append]
  rfl

/-- What has arrived is a part of what there was. -/
theorem Accounts.sublist (h : Accounts got items) : (itemsIn got).Sublist items := by
  induction h with
  | nil => exact List.Sublist.refl []
  | item _ a ih =>
      rw [itemsIn_append]
      exact ih.append (List.Sublist.refl [a])
  | lagged _ lost ih =>
      rw [itemsIn_append]
      exact ih.append (List.nil_sublist lost)

/-- What has not arrived was announced as lost. -/
theorem Accounts.length_eq (h : Accounts got items) :
    (itemsIn got).length + lossIn got = items.length := by
  induction h with
  | nil => rfl
  | item _ a ih =>
      rw [itemsIn_append, lossIn_append, List.length_append, List.length_append, ← ih]
      change _ + 1 + (_ + 0) = _ + 1
      omega
  | lagged _ lost ih =>
      rw [itemsIn_append, lossIn_append, List.length_append, List.length_append, ← ih]
      change _ + 0 + (_ + (lost.length + 0)) = _
      omega

/-- A receiver that came to a place in a list of items, and takes the one in another
    place next, was told what accounts for those in between. -/
structure Follows (items : List α) (first next : Nat) (got : List (Received α)) : Prop where
  first_le : first ≤ next
  next_le : next ≤ items.length
  accounts : Accounts got ((items.take next).drop first)

namespace Follows

/-- Whoever comes has been told nothing, and misses what was there before. -/
theorem start (items : List α) : Follows items items.length items.length [] where
  first_le := Nat.le_refl _
  next_le := Nat.le_refl _
  accounts := by
    rw [List.take_length, List.drop_length]
    exact .nil

theorem append (h : Follows items first next got) (more : List α) :
    Follows (items ++ more) first next got where
  first_le := h.first_le
  next_le := by
    rw [List.length_append]
    exact Nat.le_add_right_of_le h.next_le
  accounts := by
    rw [List.take_append_of_le_length h.next_le]
    exact h.accounts

theorem sublist (h : Follows items first next got) : (itemsIn got).Sublist items :=
  h.accounts.sublist.trans ((List.drop_sublist _ _).trans (List.take_sublist _ _))

/-- A receiver of a ring that takes what comes next has been told of it. -/
theorem receive {r : Broadcast α} (h : Follows items first next got) (hkeeps : r.Keeps items)
    (hnext : r.receive next = (some x, after)) : Follows items first after (got ++ [x]) := by
  have hfirst := h.first_le
  have htotal := hkeeps.total
  cases x with
  | item a =>
      rcases Broadcast.receive_eq_item hnext with ⟨hkept, hget, rfl⟩
      rw [hkeeps.getElem?_kept hkept] at hget
      have hlt : next < items.length := (List.getElem?_eq_some_iff.mp hget).1
      refine ⟨by omega, hlt, ?_⟩
      rw [List.take_add_one, hget, Option.toList_some,
        List.drop_append_of_le_length (by rw [List.length_take]; omega)]
      exact .item h.accounts a
  | lagged lost =>
      rcases Broadcast.receive_eq_lagged hnext with ⟨hbehind, rfl⟩
      have hold := r.oldest_le_total
      refine ⟨by omega, by omega, ?_⟩
      -- What was lost lies between where the receiver was and what is kept.
      have hlost : lost = ((items.drop next).take (r.oldest - next)).length := by
        rw [Broadcast.receive, if_pos hbehind] at hnext
        cases hnext
        rw [List.length_take, List.length_drop]
        omega
      have hsplit : items.take r.oldest = items.take next ++
          (items.drop next).take (r.oldest - next) := by
        rw [← List.take_add, Nat.add_sub_cancel' hbehind.le]
      rw [hsplit, List.drop_append_of_le_length (by rw [List.length_take]; omega), hlost]
      exact .lagged h.accounts _
  | closed =>
      -- A ring tells of nothing but items and losses.
      unfold Broadcast.receive at hnext
      split at hnext
      · cases hnext
      · split at hnext <;> cases hnext

end Follows

end Accounts

section Observations

/-- What the relay is told when it comes to the ring, among effects. -/
def toldToRelay (effects : List (ServiceEffect ι)) : List (Received Event) :=
  effects.filterMap fun
    | .relay (.emitted e) => some (.item e)
    | .relay (.lost n) => some (.lagged n)
    | _ => none

/-- The events that the subscriber in a place begins to handle, among effects. -/
def pickedBy (place : Nat) (effects : List (ServiceEffect ι)) : List Event :=
  effects.filterMap fun
    | .relay (.shown (.picked p e)) => if p = place then some e else none
    | _ => none

/-- The events that wait for the worker in a place. -/
def Relay.queueAt (r : Relay) (place : Nat) : List Event :=
  (r.delivery.fanout.boxes[place]?.map Mailbox.queue).getD []

variable (place : Nat) (d : Delivery) (e : Event)

theorem toldToRelay_append (effects more : List (ServiceEffect ι)) :
    toldToRelay (effects ++ more) = toldToRelay effects ++ toldToRelay more :=
  List.filterMap_append

theorem pickedBy_append (effects more : List (ServiceEffect ι)) :
    pickedBy place (effects ++ more) = pickedBy place effects ++ pickedBy place more :=
  List.filterMap_append

/-- The relay hands out the events that it is told of. -/
theorem emittedIn_eq (effects : List (ServiceEffect ι)) :
    emittedIn effects = itemsIn (toldToRelay effects) := by
  rw [emittedIn, itemsIn, toldToRelay, List.filterMap_filterMap]
  congr 1
  funext e
  rcases e with _ | e
  · rfl
  · cases e <;> rfl

theorem toldToRelay_call (shown : List (Effect ι)) :
    toldToRelay (shown.map ServiceEffect.call) = [] := by
  rw [toldToRelay, List.filterMap_map, List.filterMap_eq_nil_iff]
  exact fun _ _ => rfl

theorem pickedBy_call (shown : List (Effect ι)) :
    pickedBy place (shown.map ServiceEffect.call) = [] := by
  rw [pickedBy, List.filterMap_map, List.filterMap_eq_nil_iff]
  exact fun _ _ => rfl

theorem toldToRelay_published (events : List Event) :
    toldToRelay (events.map fun e => (.relay (.shown (.published e)) : ServiceEffect ι)) = [] := by
  rw [toldToRelay, List.filterMap_map, List.filterMap_eq_nil_iff]
  exact fun _ _ => rfl

theorem pickedBy_published (events : List Event) :
    pickedBy place (events.map fun e => (.relay (.shown (.published e)) : ServiceEffect ι)) =
      [] := by
  rw [pickedBy, List.filterMap_map, List.filterMap_eq_nil_iff]
  exact fun _ _ => rfl

theorem toldToRelay_offers :
    toldToRelay ((d.offers e).map fun shown => (.relay (.shown shown) : ServiceEffect ι)) = [] := by
  rw [toldToRelay, List.filterMap_map, List.filterMap_eq_nil_iff]
  exact fun _ _ => rfl

/-- What a mailbox does with an event is not yet taking it up. -/
theorem pickedBy_offers :
    pickedBy place ((d.offers e).map fun shown => (.relay (.shown shown) : ServiceEffect ι)) =
      [] := by
  rw [pickedBy, List.filterMap_map, List.filterMap_eq_nil_iff]
  intro shown hshown
  rcases List.mem_map.mp hshown with ⟨⟨m, p⟩, -, rfl⟩
  dsimp only [Function.comp_apply]
  cases m.post e <;> rfl

end Observations

namespace Service

variable {s t : Service ι} {a : ServiceAction ι} {effects : List (ServiceEffect ι)}
  {place : Nat} {m m' : Mailbox}

/-- In a step the relay is told nothing and stays where it is, or it takes what the
    ring has for it. -/
theorem Step.told (h : Step s a t effects) :
    (t.relay.next = s.relay.next ∧ toldToRelay effects = []) ∨
    ∃ got, s.relay.delivery.ring.receive s.relay.next = (some got, t.relay.next) ∧
      toldToRelay effects = [got] := by
  cases h with
  | called hact => exact Or.inl ⟨by rw [delivery_publishAll], toldToRelay_call _⟩
  | gone hgone => exact Or.inl ⟨rfl, rfl⟩
  | moved hmove =>
      cases hmove with
      | took hlistens hnext =>
          -- Only a turn of the relay at the ring moves its place in it.
          refine Or.inr ⟨_, hnext, ?_⟩
          rw [shown_of_took, toldToRelay_append, toldToRelay_append, toldToRelay_offers,
            toldToRelay_published]
          rfl
      | missed hlistens hnext => exact Or.inr ⟨_, hnext, rfl⟩
      | finished hbox hbusy =>
          refine Or.inl ⟨rfl, ?_⟩
          rw [shown_of_finished, toldToRelay_append, toldToRelay_published]
          rfl
      | picked _ _ | retired _ _ | closed _ _ _ _ => exact Or.inl ⟨rfl, rfl⟩

theorem queueAt_of_getElem? {r : Relay} (hbox : r.delivery.fanout.boxes[place]? = some m) :
    r.queueAt place = m.queue := by
  rw [Relay.queueAt, hbox]
  rfl

/-- One mailbox is another one, and all others wait as they did. -/
theorem queueAt_set (place : Nat) {r : Relay} (r' : Relay) {other : Nat}
    (hbox : r.delivery.fanout.boxes[other]? = some m)
    (hboxes : r'.delivery.fanout.boxes = r.delivery.fanout.boxes.set other m') :
    r'.queueAt place = if place = other then m'.queue else r.queueAt place := by
  have hlt : other < r.delivery.fanout.boxes.length := (List.getElem?_eq_some_iff.mp hbox).1
  rw [Relay.queueAt, hboxes]
  by_cases hplace : place = other
  · rw [if_pos hplace, hplace, List.getElem?_set_self hlt]
    rfl
  · rw [if_neg hplace, List.getElem?_set_ne (fun h => hplace h.symm), Relay.queueAt]

/-- What is handed out goes to the end of a queue, or not at all. -/
theorem queueAt_took_sublist {r : Relay} (e : Event) (next place : Nat) :
    ({ r with delivery := r.delivery.emit e, next }.queueAt place).Sublist
      (r.queueAt place ++ [e]) := by
  simp only [Relay.queueAt, Delivery.fanout_emit, Fanout.boxes_emit, List.getElem?_map]
  cases hbox : r.delivery.fanout.boxes[place]? with
  | none => exact List.nil_sublist _
  | some m =>
      simp only [Option.map_some, Option.getD_some, Fanout.offer_fst]
      cases hpost : m.post e with
      | ok m' => exact (Mailbox.queue_post hpost) ▸ List.Sublist.refl _
      | error why => exact List.sublist_append_left _ _

/-- What a worker takes up in a step and what waits for it afterwards was waiting
    for it before, or is handed out in this step. -/
theorem Step.queue_sublist (h : Step s a t effects) (place : Nat) :
    (pickedBy place effects ++ t.relay.queueAt place).Sublist
      (s.relay.queueAt place ++ emittedIn effects) := by
  have hsame : s.relay.queueAt place = s.relay.queueAt place ++ [] := (List.append_nil _).symm
  cases h with
  | called hact =>
      rw [pickedBy_call, emittedIn_call, ← hsame, delivery_publishAll, Relay.queueAt,
        Delivery.fanout_publishAll]
      exact List.Sublist.refl _
  | gone hgone => exact hsame ▸ List.Sublist.refl _
  | moved hmove =>
      cases hmove with
      | took hlistens hnext =>
          -- An event is taken: it joins the queue if there is room in it, and is
          -- left out if there is none.
          rw [shown_of_took, pickedBy_append, pickedBy_append, pickedBy_offers, pickedBy_published,
            emittedIn_append, emittedIn_append, emittedIn_offers, emittedIn_published]
          exact queueAt_took_sublist _ _ _
      | missed _ _ | retired _ _ => exact hsame ▸ List.Sublist.refl _
      | @picked other m m' e hbox hpick =>
          have hset := queueAt_set place { s.relay with
            delivery := s.relay.delivery.setBox other m' } hbox rfl
          rw [hset]
          by_cases hplace : place = other
          · -- The event in hand is the one that waited first.
            have hqueue : m.queue = e :: m'.queue := by
              unfold Mailbox.pick at hpick
              split at hpick
              · rename_i hq
                cases hpick
                exact hq
              · cases hpick
            rw [if_pos hplace, hplace, queueAt_of_getElem? hbox, hqueue]
            simp [pickedBy, emittedIn]
          · have hne : other ≠ place := fun h => hplace h.symm
            rw [if_neg hplace]
            simp [pickedBy, emittedIn, hne]
      | @finished other m e how hbox hbusy =>
          have hset := queueAt_set place { s.relay with
            delivery := (s.relay.delivery.setBox other (m.finish how).1).publishAll
              (m.finish how).2.toList } hbox (by
                rw [Delivery.fanout_publishAll]
                rfl)
          rw [hset, shown_of_finished, pickedBy_append, pickedBy_published, emittedIn_append,
            emittedIn_published]
          by_cases hplace : place = other
          · rw [if_pos hplace, hplace, queueAt_of_getElem? hbox]
            -- A worker that dies leaves nothing behind, and every other one what there was.
            cases how with
            | died => exact List.nil_sublist _
            | handled | panicked p => exact List.sublist_append_left _ _
          · rw [if_neg hplace]
            exact List.sublist_append_left _ _
      | @closed other m hbox hclosing hidle hempty =>
          -- The queue is closed behind what waits in it.
          have hset := queueAt_set place { s.relay with
            delivery := s.relay.delivery.setBox other m.close } hbox rfl
          have hclose : m.close.queue = m.queue := by
            unfold Mailbox.close
            split <;> rfl
          rw [hset, hclose]
          by_cases hplace : place = other
          · rw [if_pos hplace, hplace, queueAt_of_getElem? hbox]
            exact List.sublist_append_left _ _
          · rw [if_neg hplace]
            exact List.sublist_append_left _ _

end Service

end Steward
