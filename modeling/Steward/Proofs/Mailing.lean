import Steward.Proofs.Passage
import Mathlib.Data.List.Infix

/-!
# What Becomes of an Event at a Mailbox

An event that a mailbox accepts is passed to the subscriber in its turn, and an
event is not refused but for want of room or of a worker.

A set of subscribers is worked on from several sides. Events are handed out, workers
take them up and are done with them in their own time, and at some point the set is
closed. Handing out an event means going from mailbox to mailbox, and a worker may
come in between. `Delivery.offerAt` is one such visit. `emit_isRun` says that handing
an event to all is to visit all of them with nobody in between, so what is shown for
runs of visits is shown for every way in which those who hand out events and the
workers can come upon each other.

Seen from one mailbox all this is very little. An event is accepted or refused, taken
up, and handled, and the worker ends at some time: `Mailbox.Turn` lists it. What was
accepted is what was taken up and then what waits, from one turn to the next, and this
is the whole of it as long as the worker lives (`Books.turn`). How many wait at a
moment is known from what was seen until then, and so is whether the worker lives, and
nothing else decides about the next event (`BoxMark.Justified`).

## Main definitions

* `Delivery.offerAt`, `Delivery.happen`: A visit to one mailbox, and whatever else can
  happen.
* `Delivery.Occurs`: The steps one by one.
* `BoxMark`, `marksAt`: What is seen at one mailbox.
* `Mailbox.Turn`: The steps of one mailbox.
* `BoxMark.Justified`: When a mailbox accepts an event and when it refuses one.
* `Books`: What a mailbox holds, by what was seen at it.

## Theorems

* `emit_isRun`: Handing an event to all is a visit to each.
* `occurs_of_happen`: Every step is in the list.
* `turn_of_occurs`: What a step is to one mailbox.
* `Books.turn`: A step of a mailbox keeps its books in order.
-/

namespace Steward

/-- What a mailbox says to an event. -/
def Mailbox.answer (m : Mailbox) (place : Nat) (e : Event) : DeliveryEffect :=
  match m.post e with
  | .ok _ => .accepted place e
  | .error why => .refused place e why

/-- The event in a worker's hands. -/
def Worker.inHand : Worker → List Event
  | .busy e => [e]
  | _ => []

/-- What can happen around a set of subscribers. -/
inductive Happening where
  /-- Somebody else publishes. -/
  | elsewhere (notice : Notice)
  /-- An event that is being handed out comes to the mailbox in a place. -/
  | offer (place : Nat) (event : Event)
  /-- Any other step, or an event that is handed out with nothing in between. -/
  | step (action : DeliveryAction)
deriving DecidableEq, Repr

/-- What shows of it. -/
inductive MailEffect where
  | elsewhere (event : Event)
  | own (effect : DeliveryEffect)
deriving DecidableEq, Repr

namespace Delivery

/-- An event comes to the mailbox in a place, and a refusal is published. -/
def offerAt (d : Delivery) (place : Nat) (e : Event) :
    Option (Delivery × List DeliveryEffect) :=
  match d.fanout.boxes[place]? with
  | none => none
  | some m =>
    if d.fanout.closing then none
    else some ((d.setBox place (Fanout.offer e m).1).publishAll (Fanout.offer e m).2,
      m.answer place e :: (d.stamped (Fanout.offer e m).2).map .published)

/-- One thing happens, and what shows of it. -/
def happen (d : Delivery) : Happening → Option (Delivery × List MailEffect)
  | .elsewhere n => some (d.publish n, [.elsewhere (n.stamp d.nextSeq)])
  | .offer place e => (d.offerAt place e).map fun (d, effects) => (d, effects.map .own)
  | .step (.publish _) => none
  | .step a => (d.act a).map fun (d, effects) => (d, effects.map .own)

variable {d d' : Delivery} {place : Nat} {e : Event} {m m' : Mailbox}

theorem setBox_publishAll (d : Delivery) (notices : List Notice) (place : Nat) (m : Mailbox) :
    (d.publishAll notices).setBox place m = (d.setBox place m).publishAll notices := by
  induction notices generalizing d with
  | nil => rfl
  | cons n rest ih => rw [publishAll_cons, ih, publishAll_cons]; rfl

theorem publishAll_append (d : Delivery) (notices more : List Notice) :
    d.publishAll (notices ++ more) = (d.publishAll notices).publishAll more :=
  List.foldl_append

/-- The event has come to so many mailboxes and not yet to the others. -/
def handedOut (d : Delivery) (e : Event) (k : Nat) : Delivery :=
  { d with fanout.boxes := (d.fanout.boxes.take k).map (fun m => (Fanout.offer e m).1) ++
      d.fanout.boxes.drop k }.publishAll
    ((d.fanout.boxes.take k).flatMap fun m => (Fanout.offer e m).2)

theorem boxes_handedOut (d : Delivery) (e : Event) (k : Nat) :
    (d.handedOut e k).fanout.boxes =
      (d.fanout.boxes.take k).map (fun m => (Fanout.offer e m).1) ++ d.fanout.boxes.drop k := by
  rw [handedOut, fanout_publishAll]

/-- The next mailbox is as it was, and after its turn one more is served. -/
theorem offerAt_handedOut {k : Nat} (hk : k < d.fanout.boxes.length)
    (hopen : d.fanout.closing = false) :
    ∃ effects, (d.handedOut e k).offerAt k e = some (d.handedOut e (k + 1), effects) := by
  -- The boxes before the place have the event, and those from it on are as they were.
  have hlength : ((d.fanout.boxes.take k).map fun m => (Fanout.offer e m).1).length = k := by
    rw [List.length_map, List.length_take]
    omega
  have hbox : (d.handedOut e k).fanout.boxes[k]? = some d.fanout.boxes[k] := by
    rw [boxes_handedOut, List.getElem?_append_right hlength.le, hlength, Nat.sub_self,
      List.getElem?_drop, Nat.add_zero, List.getElem?_eq_getElem hk]
  have hclosing : (d.handedOut e k).fanout.closing = false := by
    rw [handedOut, fanout_publishAll]
    exact hopen
  have htake : d.fanout.boxes.take (k + 1) = d.fanout.boxes.take k ++ [d.fanout.boxes[k]] :=
    (List.take_concat_get' _ _ hk).symm
  -- The box at the place is the next to get it, and what that reports comes
  -- after the earlier reports.
  have hnext : ((d.handedOut e k).setBox k (Fanout.offer e d.fanout.boxes[k]).1).publishAll
      (Fanout.offer e d.fanout.boxes[k]).2 = d.handedOut e (k + 1) := by
    rw [handedOut, setBox_publishAll, ← publishAll_append, handedOut, htake, List.flatMap_append,
      List.map_append, List.flatMap_singleton]
    congr 1
    simp only [setBox, Fanout.update]
    congr 2
    rw [List.set_append_right _ _ hlength.le, hlength, Nat.sub_self, List.drop_eq_getElem_cons hk,
      List.set_cons_zero, List.append_assoc]
    rfl
  rw [offerAt, hbox]
  dsimp only
  rw [hclosing, if_neg Bool.false_ne_true, hnext]
  exact ⟨_, rfl⟩

/-- Handing an event to all is a visit to each of them, with nobody in between. -/
theorem emit_isRun (d : Delivery) (e : Event) (hopen : d.fanout.closing = false) :
    ∃ effects, runOf happen d ((List.range d.fanout.boxes.length).map fun place => .offer place e) =
      some (d.emit e, effects) := by
  have hserved : ∀ k, k ≤ d.fanout.boxes.length → ∃ effects,
      runOf happen d ((List.range k).map fun place => .offer place e) =
        some (d.handedOut e k, effects) := by
    intro k
    induction k with
    | zero => exact fun _ => ⟨[], rfl⟩
    | succ k ih =>
        intro hk
        rcases ih (by omega) with ⟨shown, hrun⟩
        rcases offerAt_handedOut (e := e) hk hopen with ⟨effects, hoffer⟩
        have hact : (d.handedOut e k).happen (.offer k e) =
            some (d.handedOut e (k + 1), effects.map .own) := by
          rw [happen, hoffer, Option.map_some]
        rw [List.range_succ, List.map_append]
        exact ⟨_, runOf_append_singleton.mpr ⟨_, shown, _, hrun, hact, rfl⟩⟩
  rcases hserved _ (Nat.le_refl _) with ⟨effects, hrun⟩
  -- Once all are served nothing is left as it was.
  have hall : d.handedOut e d.fanout.boxes.length = d.emit e := by
    simp only [handedOut, List.take_length, List.drop_length, List.append_nil]
    rfl
  exact ⟨effects, hall ▸ hrun⟩

/-- The steps of a set of subscribers one by one. -/
inductive Occurs (d : Delivery) : Delivery → List MailEffect → Prop where
  | elsewhere (n : Notice) : Occurs d (d.publish n) [.elsewhere (n.stamp d.nextSeq)]
  | offered {m : Mailbox} {place : Nat} {e : Event} (hopen : d.fanout.closing = false)
      (hbox : d.fanout.boxes[place]? = some m) :
    Occurs d ((d.setBox place (Fanout.offer e m).1).publishAll (Fanout.offer e m).2)
      ((m.answer place e :: (d.stamped (Fanout.offer e m).2).map .published).map .own)
  | emitted {e : Event} (hopen : d.fanout.closing = false) :
    Occurs d (d.emit e)
      ((d.offers e ++ (d.stamped (d.fanout.emit e).2).map DeliveryEffect.published).map .own)
  | picked {m m' : Mailbox} {place : Nat} {e : Event}
      (hbox : d.fanout.boxes[place]? = some m) (hpick : m.pick = some (e, m')) :
    Occurs d (d.setBox place m') [.own (.picked place e)]
  | finished {m : Mailbox} {place : Nat} {e : Event} {how : Handling}
      (hbox : d.fanout.boxes[place]? = some m) (hbusy : m.worker = .busy e) :
    Occurs d ((d.setBox place (m.finish how).1).publishAll (m.finish how).2.toList)
      ((.handled place e how :: (d.stamped (m.finish how).2.toList).map .published).map .own)
  | shutdown (hopen : d.fanout.closing = false) :
    Occurs d { d with fanout := d.fanout.shutdown } []
  | closed {m : Mailbox} {place : Nat} (hbox : d.fanout.boxes[place]? = some m)
      (hclosing : d.fanout.closing = true) (hidle : m.worker = .idle) (hempty : m.queue = []) :
    Occurs d (d.setBox place m.close) [.own (.ended place)]

section Steps

variable {effects : List DeliveryEffect}

theorem occurs_of_offerAt (h : d.offerAt place e = some (d', effects)) :
    Occurs d d' (effects.map .own) := by
  unfold offerAt at h
  split at h
  · cases h
  · rename_i m hbox
    split at h
    · cases h
    · rename_i hopen
      cases h
      exact .offered (Bool.eq_false_iff.mpr hopen) hbox

theorem occurs_of_emit (h : d.act (.emit e) = some (d', effects)) :
    Occurs d d' (effects.map .own) := by
  simp only [act] at h
  split at h
  · cases h
  · rename_i hopen
    cases h
    exact .emitted (Bool.eq_false_iff.mpr hopen)

theorem occurs_of_pick (h : d.act (.pick place) = some (d', effects)) :
    Occurs d d' (effects.map .own) := by
  simp only [act, Option.map_eq_some_iff] at h
  rcases h with ⟨⟨e, after⟩, htaken, h⟩
  cases h
  rcases eq_of_pick htaken with ⟨m, m', hbox, hpick, rfl⟩
  exact .picked hbox hpick

theorem occurs_of_finish {how : Handling} (h : d.act (.finish place how) = some (d', effects)) :
    Occurs d d' (effects.map .own) := by
  simp only [act, Option.map_eq_some_iff] at h
  rcases h with ⟨⟨e, after⟩, hfinish, h⟩
  rcases eq_of_finish hfinish with ⟨m, hbox, hbusy, rfl⟩
  -- The reports are those of the mailbox that the worker was found in.
  simp only [hbox, Prod.mk.injEq] at h
  rcases h with ⟨rfl, rfl⟩
  exact .finished hbox hbusy

theorem occurs_of_shutdown (h : d.act .shutdown = some (d', effects)) :
    Occurs d d' (effects.map .own) := by
  simp only [act] at h
  split at h
  · cases h
  · rename_i hopen
    cases h
    exact .shutdown (Bool.eq_false_iff.mpr hopen)

theorem occurs_of_close (h : d.act (.close place) = some (d', effects)) :
    Occurs d d' (effects.map .own) := by
  simp only [act, Option.map_eq_some_iff] at h
  rcases h with ⟨after, hclose, h⟩
  cases h
  rcases eq_of_close hclose with ⟨m, hbox, hclosing, hidle, hempty, rfl⟩
  exact .closed hbox hclosing hidle hempty

end Steps

/-- Every step is one of these. -/
theorem occurs_of_happen {a : Happening} {shown : List MailEffect}
    (h : d.happen a = some (d', shown)) : Occurs d d' shown := by
  -- Outside the delivery there is one case each. Its own steps have a lemma for each kind.
  cases a with
  | elsewhere n =>
      cases h
      exact .elsewhere n
  | offer place e =>
      rw [happen, Option.map_eq_some_iff] at h
      rcases h with ⟨⟨after, effects⟩, hoffer, h⟩
      cases h
      exact occurs_of_offerAt hoffer
  | step a =>
      -- Nobody publishes by a step, it happens elsewhere.
      have hact : ∃ effects, d.act a = some (d', effects) ∧ shown = effects.map .own := by
        cases a with
        | publish n => cases h
        | emit _ | pick _ | finish _ _ | shutdown | close _ =>
            rw [happen, Option.map_eq_some_iff] at h
            · rcases h with ⟨⟨after, effects⟩, hact, h⟩
              cases h
              exact ⟨effects, hact, rfl⟩
            · intro _ heq
              cases heq
      rcases hact with ⟨effects, hact, rfl⟩
      cases a with
      | publish n => cases h
      | emit e => exact occurs_of_emit hact
      | pick place => exact occurs_of_pick hact
      | finish place how => exact occurs_of_finish hact
      | shutdown => exact occurs_of_shutdown hact
      | close place => exact occurs_of_close hact

end Delivery

/-- What is seen at one mailbox. -/
inductive BoxMark where
  | accepted (event : Event)
  | refused (event : Event) (why : Refusal)
  | picked (event : Event)
  | handled (event : Event) (how : Handling)
  | ended
deriving DecidableEq, Repr

/-- What an effect is to the mailbox in a place. -/
def DeliveryEffect.mark? (place : Nat) : DeliveryEffect → Option BoxMark
  | .published _ => none
  | .accepted p e => if p = place then some (.accepted e) else none
  | .refused p e why => if p = place then some (.refused e why) else none
  | .picked p e => if p = place then some (.picked e) else none
  | .handled p e how => if p = place then some (.handled e how) else none
  | .ended p => if p = place then some .ended else none

/-- What is seen at the mailbox in a place, among effects. -/
def marksAt (place : Nat) (shown : List MailEffect) : List BoxMark :=
  shown.flatMap fun
    | .own effect => (effect.mark? place).toList
    | .elsewhere _ => []

@[simp] def BoxMark.accepted? : BoxMark → Option Event
  | .accepted e => some e
  | _ => none

@[simp] def BoxMark.picked? : BoxMark → Option Event
  | .picked e => some e
  | _ => none

@[simp] def BoxMark.handled? : BoxMark → Option Event
  | .handled e _ => some e
  | _ => none

/-- The events that a mailbox has accepted. -/
def acceptedIn (marks : List BoxMark) : List Event :=
  marks.filterMap BoxMark.accepted?

/-- The events that were passed to the subscriber. -/
def pickedIn (marks : List BoxMark) : List Event :=
  marks.filterMap BoxMark.picked?

/-- The events that the subscriber is done with. -/
def handledIn (marks : List BoxMark) : List Event :=
  marks.filterMap BoxMark.handled?

/-- Whether the worker of a mailbox has come to its end. -/
def IsOver (marks : List BoxMark) : Prop :=
  (∃ e, .handled e .died ∈ marks) ∨ .ended ∈ marks

section Marks

variable (place : Nat) (mark : BoxMark) (marks more : List BoxMark)
  (shown later : List MailEffect)

theorem marksAt_append : marksAt place (shown ++ later) = marksAt place shown ++ marksAt place later :=
  List.flatMap_append

theorem marksAt_cons (effect : DeliveryEffect) :
    marksAt place (.own effect :: later) = (effect.mark? place).toList ++ marksAt place later :=
  List.flatMap_cons

@[simp] theorem acceptedIn_concat :
    acceptedIn (marks ++ [mark]) = acceptedIn marks ++ mark.accepted?.toList := by
  rw [acceptedIn, List.filterMap_append, List.filterMap_eq_flatMap_toList _ [mark],
    List.flatMap_singleton]
  rfl

@[simp] theorem pickedIn_concat :
    pickedIn (marks ++ [mark]) = pickedIn marks ++ mark.picked?.toList := by
  rw [pickedIn, List.filterMap_append, List.filterMap_eq_flatMap_toList _ [mark],
    List.flatMap_singleton]
  rfl

@[simp] theorem handledIn_concat :
    handledIn (marks ++ [mark]) = handledIn marks ++ mark.handled?.toList := by
  rw [handledIn, List.filterMap_append, List.filterMap_eq_flatMap_toList _ [mark],
    List.flatMap_singleton]
  rfl

@[simp] theorem isOver_concat :
    IsOver (marks ++ [mark]) ↔ IsOver marks ∨ (∃ e, mark = .handled e .died) ∨ mark = .ended := by
  simp only [IsOver, List.mem_append, List.mem_singleton, exists_or, eq_comm]
  tauto

end Marks

/-- The steps of a mailbox, and what is seen of them. -/
inductive Mailbox.Turn (closing : Bool) (m : Mailbox) : Mailbox → List BoxMark → Prop where
  /-- What happens is no concern of this mailbox. -/
  | still : Turn closing m m []
  | accepted {m' : Mailbox} {e : Event} (h : m.post e = .ok m') :
    Turn closing m m' [.accepted e]
  | refused {e : Event} {why : Refusal} (h : m.post e = .error why) :
    Turn closing m m [.refused e why]
  | picked {m' : Mailbox} {e : Event} (h : m.pick = some (e, m')) : Turn closing m m' [.picked e]
  | handled {e : Event} (how : Handling) (h : m.worker = .busy e) :
    Turn closing m (m.finish how).1 [.handled e how]
  | ended (hclosing : closing = true) (hidle : m.worker = .idle) (hempty : m.queue = []) :
    Turn closing m m.close [.ended]

namespace Delivery

variable {d d' : Delivery} {place : Nat} {m : Mailbox} {effects : List MailEffect}

theorem marksAt_published (place : Nat) (events : List Event) :
    marksAt place ((events.map DeliveryEffect.published).map .own) = [] := by
  rw [marksAt, List.map_map, List.flatMap_map, List.flatMap_eq_nil_iff]
  exact fun _ _ => rfl

theorem mark?_answer_of_ne {other : Nat} {e : Event} (h : other ≠ place) :
    (m.answer other e).mark? place = none := by
  rw [Mailbox.answer]
  cases m.post e <;> exact if_neg h

/-- What an event comes to at a mailbox, if it comes to it. -/
theorem turn_of_offer (closing : Bool) (m : Mailbox) (place : Nat) (e : Event) :
    m.Turn closing (Fanout.offer e m).1 ((m.answer place e).mark? place).toList := by
  rw [Fanout.offer_fst, Mailbox.answer]
  cases hpost : m.post e with
  | ok m' =>
      rw [DeliveryEffect.mark?, if_pos rfl]
      exact .accepted hpost
  | error why =>
      rw [DeliveryEffect.mark?, if_pos rfl]
      exact .refused hpost

/-- One mailbox is another one after a step, and the others are as they were. -/
theorem turn_of_set {boxes : List Mailbox} {closing : Bool} {other : Nat} {m n n' : Mailbox}
    (marks : Nat → List BoxMark) (hbox : boxes[place]? = some m) (hother : boxes[other]? = some n)
    (hnone : ∀ p, p ≠ other → marks p = []) (hturn : n.Turn closing n' (marks other)) :
    ∃ m', (boxes.set other n')[place]? = some m' ∧ m.Turn closing m' (marks place) := by
  by_cases hplace : place = other
  · subst hplace
    rw [hbox, Option.some.injEq] at hother
    subst hother
    exact ⟨n', List.getElem?_set_self (List.getElem?_eq_some_iff.mp hbox).1, hturn⟩
  · rw [List.getElem?_set_ne (fun h => hplace h.symm), hnone place hplace]
    exact ⟨m, hbox, .still⟩

/-- What is seen at a mailbox when an event is handed to all is what it says itself. -/
theorem marksAt_offers {e : Event} (hbox : d.fanout.boxes[place]? = some m) :
    marksAt place ((d.offers e).map .own) = ((m.answer place e).mark? place).toList := by
  have hplace := filterMap_zipIdx_place
    (fun m : Mailbox => (m.answer place e).mark? place) 0 hbox
  rw [← hplace, Nat.zero_add, List.filterMap_eq_flatMap_toList, marksAt, offers, List.map_map,
    List.flatMap_map]
  congr 1
  funext entry
  rcases entry with ⟨n, p⟩
  by_cases hp : p = place
  · subst hp
    rw [if_pos rfl]
    rfl
  · -- What another mailbox says is about its own place.
    rw [if_neg hp]
    exact congrArg Option.toList (mark?_answer_of_ne hp)

/-- What a step is to one mailbox. -/
theorem turn_of_occurs {shown : List MailEffect} (h : Occurs d d' shown)
    (hbox : d.fanout.boxes[place]? = some m) :
    ∃ m', d'.fanout.boxes[place]? = some m' ∧
      m.Turn d.fanout.closing m' (marksAt place shown) := by
  cases h with
  | elsewhere n => exact ⟨m, hbox, .still⟩
  | shutdown hopen => exact ⟨m, hbox, .still⟩
  | @offered n p e hopen hother =>
      -- An offer, a step of a worker or a close is about one box; the others keep what
      -- they have, and no mark is theirs.
      rw [fanout_publishAll, List.map_cons, marksAt_cons, marksAt_published, List.append_nil]
      refine turn_of_set (fun p' => ((n.answer p e).mark? p').toList) hbox hother
        (fun p' hp' => ?_) (turn_of_offer _ n p e)
      rw [mark?_answer_of_ne fun h => hp' h.symm]
      rfl
  | @emitted e hopen =>
      -- An event that is emitted is offered to every box.
      rw [fanout_emit, Fanout.boxes_emit, List.getElem?_map, hbox, List.map_append, marksAt_append,
        marksAt_published, List.append_nil, marksAt_offers hbox]
      exact ⟨_, rfl, turn_of_offer _ m place e⟩
  | @picked n n' p e hother hpick =>
      refine turn_of_set (fun p' => marksAt p' [.own (.picked p e)]) hbox hother
        (fun p' hp' => ?_) ?_
      · rw [marksAt_cons, DeliveryEffect.mark?, if_neg fun h => hp' h.symm]
        rfl
      · rw [marksAt_cons, DeliveryEffect.mark?, if_pos rfl]
        exact .picked hpick
  | @finished n p e how hother hbusy =>
      rw [fanout_publishAll, List.map_cons, marksAt_cons, marksAt_published, List.append_nil]
      refine turn_of_set (fun p' => ((DeliveryEffect.handled p e how).mark? p').toList)
        hbox hother (fun p' hp' => ?_) ?_
      · rw [DeliveryEffect.mark?, if_neg fun h => hp' h.symm]
        rfl
      · rw [DeliveryEffect.mark?, if_pos rfl]
        exact .handled how hbusy
  | @closed n p hother hclosing hidle hempty =>
      refine turn_of_set (fun p' => marksAt p' [.own (.ended p)]) hbox hother
        (fun p' hp' => ?_) ?_
      · rw [marksAt_cons, DeliveryEffect.mark?, if_neg fun h => hp' h.symm]
        rfl
      · rw [marksAt_cons, DeliveryEffect.mark?, if_pos rfl]
        exact .ended hclosing hidle hempty

end Delivery

/-- Why a mailbox accepts or refuses an event, after what was seen at it. -/
def BoxMark.Justified (capacity : Nat) (before : List BoxMark) : BoxMark → Prop
  | .accepted _ => ¬IsOver before ∧
      (acceptedIn before).length < (pickedIn before).length + max 1 capacity
  | .refused _ .full => ¬IsOver before ∧
      (acceptedIn before).length = (pickedIn before).length + max 1 capacity
  | .refused _ .closed => IsOver before
  | _ => True

/-- What a mailbox holds, by what was seen at it. -/
structure Books (name : String) (capacity : Nat) (m : Mailbox) (marks : List BoxMark) : Prop where
  name_eq : m.name = name
  capacity_eq : m.capacity = max 1 capacity
  /-- No more wait than there is room for. -/
  room : m.queue.length ≤ max 1 capacity
  /-- What was passed to the subscriber is what it is done with and what it is busy
      with. -/
  picked_eq : pickedIn marks = handledIn marks ++ m.worker.inHand
  /-- What was accepted is what was passed on and what waits. -/
  accepted_eq : m.worker ≠ .ended → acceptedIn marks = pickedIn marks ++ m.queue
  /-- What was passed on was accepted, also if the worker has ended. -/
  begun : pickedIn marks <+: acceptedIn marks
  over_iff : m.worker = .ended ↔ IsOver marks
  /-- A worker that ended because nothing more was to come has left nothing. -/
  emptied : .ended ∈ marks → (∀ e, .handled e .died ∉ marks) ∧ acceptedIn marks = handledIn marks
  /-- At every moment an event was accepted or refused for the reason given. -/
  justified : ∀ before mark, before ++ [mark] <+: marks → mark.Justified capacity before

namespace Mailbox

variable {m m' : Mailbox} {e : Event}

theorem eq_of_post (h : m.post e = .ok m') : m.worker ≠ .ended ∧
    m.queue.length < m.capacity ∧ m' = { m with queue := m.queue ++ [e] } := by
  unfold post at h
  split at h
  · cases h
  · rename_i halive
    split at h
    · cases h
    · rename_i hroom
      cases h
      exact ⟨halive, Nat.lt_of_not_le hroom, rfl⟩

theorem eq_of_pick (h : m.pick = some (e, m')) : m.worker = .idle ∧
    ∃ rest, m.queue = e :: rest ∧ m' = { m with queue := rest, worker := .busy e } := by
  unfold pick at h
  split at h
  · rename_i e' rest hidle hqueue
    cases h
    exact ⟨hidle, rest, hqueue, rfl⟩
  · cases h

variable (how : Handling)

@[simp] theorem name_finish : (m.finish how).1.name = m.name := by cases how <;> rfl

@[simp] theorem capacity_finish : (m.finish how).1.capacity = m.capacity := by cases how <;> rfl

/-- A worker that is done with an event has nothing in its hands. -/
@[simp] theorem inHand_finish : (m.finish how).1.worker.inHand = [] := by cases how <;> rfl

theorem ended_finish_iff : (m.finish how).1.worker = .ended ↔ how = .died := by
  cases how <;> simp [finish]

theorem queue_finish : (m.finish how).1.queue = if how = .died then [] else m.queue := by
  cases how <;> rfl

end Mailbox

namespace Books

variable {name : String} {capacity : Nat} {m m' : Mailbox} {marks now : List BoxMark}
  {closing : Bool}

/-- A mailbox that has seen nothing yet. -/
theorem new (name : String) (capacity : Nat) : Books name capacity (Mailbox.new name capacity) []
    where
  name_eq := rfl
  capacity_eq := Nat.max_comm capacity 1
  room := Nat.zero_le _
  picked_eq := rfl
  accepted_eq _ := rfl
  begun := List.prefix_refl _
  over_iff := by simp [Mailbox.new, IsOver]
  emptied h := absurd h List.not_mem_nil
  justified before mark h := absurd (List.prefix_nil.mp h) (List.append_ne_nil_of_right_ne_nil _
    (List.cons_ne_nil mark []))

theorem justified_append (h : Books name capacity m marks) {new : BoxMark}
    (hnew : new.Justified capacity marks) (before : List BoxMark) (mark : BoxMark)
    (hpre : before ++ [mark] <+: marks ++ [new]) : mark.Justified capacity before := by
  rcases List.prefix_concat_iff.mp hpre with heq | hold
  · rcases List.append_inj_left' heq rfl with rfl
    rcases List.append_inj_right' heq rfl with hmark
    cases hmark
    exact hnew
  · exact h.justified before mark hold

theorem alive_iff (h : Books name capacity m marks) : m.worker ≠ .ended ↔ ¬IsOver marks :=
  not_congr h.over_iff

/-- How many wait at a worker that lives. -/
theorem length_queue (h : Books name capacity m marks) (halive : m.worker ≠ .ended) :
    (acceptedIn marks).length = (pickedIn marks).length + m.queue.length := by
  rw [h.accepted_eq halive, List.length_append]

theorem accept {e : Event} (h : Books name capacity m marks) (hpost : m.post e = .ok m') :
    Books name capacity m' (marks ++ [.accepted e]) := by
  rcases Mailbox.eq_of_post hpost with ⟨halive, hroom, rfl⟩
  have hnotOver := h.alive_iff.mp halive
  have hlength := h.length_queue halive
  rw [h.capacity_eq] at hroom
  exact {
    name_eq := h.name_eq
    capacity_eq := h.capacity_eq
    room := by
      rw [List.length_append, List.length_singleton]
      exact hroom
    picked_eq := by simpa using h.picked_eq
    accepted_eq := fun _ => by simp [h.accepted_eq halive]
    begun := by simpa using h.begun.trans (List.prefix_append _ [e])
    over_iff := by simpa using h.over_iff
    -- A worker that has ended accepts nothing.
    emptied := fun hended => absurd (.inr (by simpa using hended)) hnotOver
    justified := h.justified_append ⟨hnotOver, by omega⟩ }

theorem refuse {e : Event} {why : Refusal} (h : Books name capacity m marks)
    (hpost : m.post e = .error why) : Books name capacity m (marks ++ [.refused e why]) := by
  -- The refusal is justified: the worker is gone, or the queue is full at this moment.
  have hjustified : (BoxMark.refused e why).Justified capacity marks := by
    rcases Mailbox.post_eq_error_iff.mp hpost with ⟨hended, rfl⟩ | ⟨halive, hfull, rfl⟩
    · exact h.over_iff.mp hended
    · have hlength := h.length_queue halive
      have hroom := h.room
      rw [h.capacity_eq] at hfull
      exact ⟨h.alive_iff.mp halive, by omega⟩
  exact {
    name_eq := h.name_eq
    capacity_eq := h.capacity_eq
    room := h.room
    picked_eq := by simpa using h.picked_eq
    accepted_eq := fun halive => by simpa using h.accepted_eq halive
    begun := by simpa using h.begun
    over_iff := by simpa using h.over_iff
    emptied := fun hended => by simpa using h.emptied (by simpa using hended)
    justified := h.justified_append hjustified }

theorem pick {e : Event} (h : Books name capacity m marks) (hpick : m.pick = some (e, m')) :
    Books name capacity m' (marks ++ [.picked e]) := by
  rcases Mailbox.eq_of_pick hpick with ⟨hidle, rest, hqueue, rfl⟩
  have halive : m.worker ≠ .ended := by simp [hidle]
  have hnotOver := h.alive_iff.mp halive
  have hwaits : acceptedIn marks = pickedIn marks ++ [e] ++ rest := by
    rw [h.accepted_eq halive, hqueue, List.append_assoc]
    rfl
  have hroom := h.room
  rw [hqueue, List.length_cons] at hroom
  exact {
    name_eq := h.name_eq
    capacity_eq := h.capacity_eq
    room := Nat.le_of_succ_le hroom
    -- A worker that waits has nothing in its hands.
    picked_eq := by simp [h.picked_eq, hidle, Worker.inHand]
    accepted_eq := fun _ => by simpa using hwaits
    begun := by
      simp only [acceptedIn_concat, pickedIn_concat, BoxMark.accepted?, BoxMark.picked?,
        Option.toList_none, Option.toList_some, List.append_nil, hwaits]
      exact List.prefix_append _ _
    over_iff := by simpa using hnotOver
    emptied := fun hended => absurd (.inr (by simpa using hended)) hnotOver
    justified := h.justified_append trivial }

theorem finish {e : Event} (how : Handling) (h : Books name capacity m marks)
    (hbusy : m.worker = .busy e) :
    Books name capacity (m.finish how).1 (marks ++ [.handled e how]) := by
  -- Whoever is busy has not ended, and only dying makes the box be over.
  have halive : m.worker ≠ .ended := by simp [hbusy]
  have hnotOver := h.alive_iff.mp halive
  have hroom := h.room
  exact {
    name_eq := by simpa using h.name_eq
    capacity_eq := by simpa using h.capacity_eq
    room := by
      rw [Mailbox.queue_finish]
      split
      · exact Nat.zero_le _
      · exact hroom
    picked_eq := by
      have hhand : m.worker.inHand = [e] := by rw [hbusy, Worker.inHand]
      simp [h.picked_eq, hhand]
    accepted_eq := fun hlives => by
      rw [ne_eq, Mailbox.ended_finish_iff] at hlives
      simpa [Mailbox.queue_finish, hlives] using h.accepted_eq halive
    begun := by simpa using h.begun
    over_iff := by simpa [hnotOver] using Mailbox.ended_finish_iff how
    emptied := fun hended => absurd (.inr (by simpa using hended)) hnotOver
    justified := h.justified_append trivial }

theorem close (h : Books name capacity m marks) (hidle : m.worker = .idle)
    (hempty : m.queue = []) : Books name capacity m.close (marks ++ [.ended]) := by
  have halive : m.worker ≠ .ended := by simp [hidle]
  have hnotOver := h.alive_iff.mp halive
  have hclose : m.close = { m with worker := .ended } := by
    rw [Mailbox.close, hidle, hempty]
  -- The worker is idle, so all it picked is handled, and the queue is empty, so all
  -- that was accepted is picked.
  have hhandled : pickedIn marks = handledIn marks := by
    simpa [hidle, Worker.inHand] using h.picked_eq
  have haccepted : acceptedIn marks = pickedIn marks := by
    simpa [hempty] using h.accepted_eq halive
  rw [hclose]
  exact {
    name_eq := h.name_eq
    capacity_eq := h.capacity_eq
    room := h.room
    picked_eq := by simpa [Worker.inHand] using hhandled
    accepted_eq := fun hlives => absurd rfl hlives
    begun := by simpa using h.begun
    over_iff := by simp
    emptied := fun _ => by
      refine ⟨fun e hdied => hnotOver (.inl ⟨e, by simpa using hdied⟩), ?_⟩
      simpa using haccepted.trans hhandled
    justified := h.justified_append trivial }

/-- A step of a mailbox keeps its books in order. -/
theorem turn (h : Books name capacity m marks) (hturn : m.Turn closing m' now) :
    Books name capacity m' (marks ++ now) := by
  cases hturn with
  | still => exact (List.append_nil marks).symm ▸ h
  | accepted hpost => exact h.accept hpost
  | refused hpost => exact h.refuse hpost
  | picked hpick => exact h.pick hpick
  | handled how hbusy => exact h.finish how hbusy
  | ended _ hidle hempty => exact h.close hidle hempty

end Books

end Steward
