import Steward.Proofs.Clearing
import Steward.Proofs.Chronicle

/-!
# Subscribers Next to Each Other

What a subscriber goes through in a set is no matter of who else is in the set.

Take a subscriber out of its set and keep of everything that happened what came to it:
the events, in the order in which they were handed to it, and the steps of its own
worker. Nothing else is needed to tell its life, `Subscriber.life`, since an event is
accepted or refused by what the mailbox holds, what is taken up is what waits first,
and how an event is handled is up to the subscriber. `Hosted.life_eq` says that this is
the life it has in any set, whatever the others ask for, however many they are, and
whether they are stuck, break off or are gone. Two lives that are told by the same steps
are the same then, and this is `undisturbed`.

What is published about a subscriber is made of its life too, but in a set it comes
amid what is published about others, and there is no telling how they fall between each
other. So the reports on a subscriber are those that a shuffle is made of, where all
that is left is about others (`ReportedOn`). A report bears a name only. If no other
subscriber is called the same, then the reports on it are those that bear its name.

## Main definitions

* `Subscriber`: A name, a capacity, and how events are handled.
* `BoxStep`, `stepsAt`: What comes to one mailbox.
* `Subscriber.life`: What becomes of a subscriber by what comes to it.
* `Subscriber.Hosted`: A run of a set with the subscriber in it.
* `ReportedOn`: The reports on the subscriber in a place.

## Theorems

* `causes_of_happen`: What is seen at a mailbox answers to what comes to it.
* `Subscriber.Hosted.life_eq`: A subscriber in a set lives as it does alone.
* `Subscriber.Hosted.reportedOn`: What is reported on it is told by its life.
* `undisturbed`: In two sets it goes through the same.
-/

namespace Steward

/-- What comes to a mailbox: an event, or a step of its worker. -/
inductive BoxStep where
  | arrives (event : Event)
  | picks
  | finishes
  | ends
deriving DecidableEq, Repr

/-- What a happening is to the mailbox in a place. How the handling of an event ends is
    not a part of it. -/
def Happening.boxStep? (place : Nat) : Happening → Option BoxStep
  | .offer p e => if p = place then some (.arrives e) else none
  | .step (.emit e) => some (.arrives e)
  | .step (.pick p) => if p = place then some .picks else none
  | .step (.finish p _) => if p = place then some .finishes else none
  | .step (.close p) => if p = place then some .ends else none
  | .elsewhere _ | .step (.publish _) | .step .shutdown => none

/-- What comes to the mailbox in a place. -/
def stepsAt (place : Nat) (actions : List Happening) : List BoxStep :=
  actions.filterMap (Happening.boxStep? place)

/-- What has come to a mailbox when this is seen at it. -/
def BoxMark.cause : BoxMark → BoxStep
  | .accepted e | .refused e _ => .arrives e
  | .picked _ => .picks
  | .handled _ _ => .finishes
  | .ended => .ends

/-- What has to be reported on a subscriber with this name for what is seen at its
    mailbox. -/
def BoxMark.report? (name : String) : BoxMark → Option Notice
  | .refused e why =>
    if e.kind = .subscriberOverflow then none else some (.overflow name why.reason)
  | .handled _ (.panicked panic) => some (.panicked name panic.message)
  | _ => none

/-- What has to be reported on a subscriber by all that was seen at its mailbox. -/
def reportsFor (name : String) (marks : List BoxMark) : List Notice :=
  marks.filterMap (BoxMark.report? name)

/-- What a set has published itself. -/
def reportedAmong (shown : List MailEffect) : List Notice :=
  shown.filterMap fun
    | .own (.published e) => some e.toNotice
    | _ => none

/-- A subscriber: what it is called, how much room it asks for, and how it handles an
    event, by all that were passed to it, this one being the last. -/
structure Subscriber where
  name : String
  capacity : Nat
  handles : List Event → Handling

/-- The mailbox of a subscriber, and what was seen at it. -/
structure Solo where
  box : Mailbox
  marks : List BoxMark := []
deriving DecidableEq, Repr

namespace Subscriber

variable (s : Subscriber)

/-- What is seen at a mailbox fits to the subscriber, after what was seen before. -/
def Fits (before : List BoxMark) : BoxMark → Prop
  | .handled _ how => how = s.handles (pickedIn before)
  | _ => True

instance (before : List BoxMark) : (mark : BoxMark) → Decidable (s.Fits before mark)
  | .handled _ how => inferInstanceAs (Decidable (how = s.handles (pickedIn before)))
  | .accepted _ | .refused _ _ | .picked _ | .ended => .isTrue trivial

/-- What becomes of a subscriber by one thing that comes to it. A worker that cannot do
    what it is to do does nothing. -/
def live (v : Solo) : BoxStep → Solo
  | .arrives e =>
    match v.box.post e with
    | .ok m => { box := m, marks := v.marks ++ [.accepted e] }
    | .error why => { v with marks := v.marks ++ [.refused e why] }
  | .picks =>
    match v.box.pick with
    | some (e, m) => { box := m, marks := v.marks ++ [.picked e] }
    | none => v
  | .finishes =>
    match v.box.worker with
    | .busy e =>
      { box := (v.box.finish (s.handles (pickedIn v.marks))).1,
        marks := v.marks ++ [.handled e (s.handles (pickedIn v.marks))] }
    | _ => v
  | .ends => { box := v.box.close, marks := v.marks ++ [.ended] }

/-- What becomes of a subscriber, from its beginning on. -/
def life (steps : List BoxStep) : Solo :=
  steps.foldl s.live { box := .new s.name s.capacity }

/-- A run of a set from its beginning, with the subscriber in a place. -/
structure Hosted (place : Nat) (subscribers : List (String × Nat)) (actions : List Happening)
    (d : Delivery) (shown : List MailEffect) : Prop where
  listed : subscribers[place]? = some (s.name, s.capacity)
  run : ∃ fanout, Fanout.make subscribers = .ok fanout ∧ ∃ (ring : Broadcast Event) (nextSeq : Nat),
    runOf Delivery.happen { ring, nextSeq, fanout } actions = some (d, shown)
  /-- Events are handled as the subscriber handles them. -/
  fits : ∀ before mark, before ++ [mark] <+: marksAt place shown → s.Fits before mark

end Subscriber

/-- A notice is about a subscriber in another place. -/
def AboutOther (names : List String) (place : Nat) (n : Notice) : Prop :=
  ∃ other name, other ≠ place ∧ names[other]? = some name ∧ n.integration = some name

/-- These are the reports on the subscriber in a place, and what else the set has
    published is about others. -/
def ReportedOn (names : List String) (place : Nat) (reports : List Notice)
    (shown : List MailEffect) : Prop :=
  ∃ others, Shuffle reports others (reportedAmong shown) ∧ ∀ n ∈ others, AboutOther names place n

/-- A set that can be had is the one of its subscribers. -/
theorem Fanout.eq_of_make {subscribers : List (String × Nat)} {f : Fanout}
    (h : Fanout.make subscribers = .ok f) : f = .ofSubscribers subscribers := by
  unfold Fanout.make at h
  dsimp only at h
  split at h <;> cases h
  rfl

namespace Subscriber

variable {s : Subscriber} {closing : Bool} {v : Solo} {m' : Mailbox} {marks : List BoxMark}

/-- A turn of the mailbox is what the subscriber lives through by what comes to it. -/
theorem live_of_turn (hturn : v.box.Turn closing m' marks)
    (hfits : ∀ mark, marks = [mark] → s.Fits v.marks mark) :
    (marks.map BoxMark.cause).foldl s.live v = { box := m', marks := v.marks ++ marks } := by
  cases hturn with
  | still => rw [List.append_nil]; rfl
  | accepted hpost => simp only [List.map, BoxMark.cause, List.foldl, live, hpost]
  | refused hpost => simp only [List.map, BoxMark.cause, List.foldl, live, hpost]
  | picked hpick => simp only [List.map, BoxMark.cause, List.foldl, live, hpick]
  | @handled e how hbusy =>
      -- The event in the worker's hands is among those that were passed on.
      have hhow : how = s.handles (pickedIn v.marks) := hfits _ rfl
      simp only [List.map, BoxMark.cause, List.foldl, live, hbusy, hhow]
  | ended _ _ _ => rfl

end Subscriber

namespace Delivery

variable {d d' : Delivery} {place : Nat} {m : Mailbox} {a : Happening} {shown : List MailEffect}

/-- What a mailbox says to an event answers to its arrival. -/
theorem cause_answer (m : Mailbox) (p place : Nat) (e : Event) :
    ((m.answer p e).mark? place).map BoxMark.cause = (Happening.offer p e).boxStep? place := by
  rw [Mailbox.answer, Happening.boxStep?]
  cases m.post e <;>
  · dsimp only [DeliveryEffect.mark?]
    split <;> rfl

/-- What shows of an offer is what the mailbox says, and what is published of it. -/
theorem offered_of_happen {p : Nat} {e : Event} (h : d.happen (.offer p e) = some (d', shown)) :
    ∃ (n : Mailbox) (events : List Event),
      shown = (n.answer p e :: events.map .published).map .own := by
  rw [happen, Option.map_eq_some_iff] at h
  rcases h with ⟨⟨after, effects⟩, hoffer, h⟩
  cases h
  unfold offerAt at hoffer
  split at hoffer
  · cases hoffer
  · split at hoffer <;> cases hoffer
    exact ⟨_, _, rfl⟩

/-- What is seen at a mailbox answers to what comes to it. -/
theorem causes_of_happen (h : d.happen a = some (d', shown))
    (hbox : d.fanout.boxes[place]? = some m) :
    (marksAt place shown).map BoxMark.cause = (a.boxStep? place).toList := by
  cases a with
  | elsewhere n =>
      cases h
      rfl
  | offer p e =>
      -- A visit leaves a mark at one mailbox, and what is published in answer leaves none.
      rcases offered_of_happen h with ⟨n, events, rfl⟩
      rw [List.map_cons, marksAt_cons, marksAt_published, List.append_nil, ← cause_answer n]
      cases (n.answer p e).mark? place <;> rfl
  | step a =>
      cases a with
      | publish n => cases h
      | emit e =>
          simp only [happen, act, Option.map_eq_some_iff] at h
          rcases h with ⟨⟨after, effects⟩, hemit, h⟩
          cases h
          split at hemit
          · cases hemit
          · cases hemit
            -- To this mailbox it is the same as being visited alone.
            have hself : (Happening.step (.emit e)).boxStep? place =
                (Happening.offer place e).boxStep? place := (if_pos rfl).symm
            rw [List.map_append, marksAt_append, marksAt_published, List.append_nil,
              marksAt_offers hbox, hself, ← cause_answer m]
            cases (m.answer place e).mark? place <;> rfl
      | pick p =>
          -- The other steps are about one mailbox each, and are seen where that is this one.
          simp only [happen, act, Option.map_map, Option.map_eq_some_iff] at h
          rcases h with ⟨⟨e, after⟩, -, h⟩
          cases h
          rw [List.map_singleton, marksAt_cons, DeliveryEffect.mark?, Happening.boxStep?]
          split <;> rfl
      | finish p how =>
          simp only [happen, act, Option.map_map, Option.map_eq_some_iff] at h
          rcases h with ⟨⟨e, after⟩, -, h⟩
          cases h
          rw [List.map_cons, marksAt_cons, marksAt_published, List.append_nil,
            DeliveryEffect.mark?, Happening.boxStep?]
          split <;> rfl
      | shutdown =>
          simp only [happen, act, Option.map_eq_some_iff] at h
          rcases h with ⟨⟨after, effects⟩, hshutdown, h⟩
          cases h
          split at hshutdown <;> cases hshutdown
          rfl
      | close p =>
          simp only [happen, act, Option.map_map, Option.map_eq_some_iff] at h
          rcases h with ⟨after, -, h⟩
          cases h
          rw [List.map_singleton, marksAt_cons, DeliveryEffect.mark?, Happening.boxStep?]
          split <;> rfl

end Delivery

section Reports

variable {names : List String} {place : Nat} {name : String} {shown : List MailEffect}

/-- What has to be published for an effect of the set itself. -/
def MailEffect.due? (names : List String) : MailEffect → Option Notice
  | .elsewhere _ => none
  | .own effect => (MailEffect.own effect).notice? names

/-- What has to be published for what a set does. -/
def dueFor (names : List String) (shown : List MailEffect) : List Notice :=
  shown.filterMap (MailEffect.due? names)

theorem reportedAmong_append (shown later : List MailEffect) :
    reportedAmong (shown ++ later) = reportedAmong shown ++ reportedAmong later :=
  List.filterMap_append

theorem dueFor_append (names : List String) (shown later : List MailEffect) :
    dueFor names (shown ++ later) = dueFor names shown ++ dueFor names later :=
  List.filterMap_append

theorem reportsFor_append (name : String) (marks more : List BoxMark) :
    reportsFor name (marks ++ more) = reportsFor name marks ++ reportsFor name more :=
  List.filterMap_append

/-- A report names the subscriber that it is about. -/
theorem integration_of_report? {mark : BoxMark} {n : Notice} (h : mark.report? name = some n) :
    n.integration = some name := by
  cases mark with
  | refused e why =>
      rw [BoxMark.report?] at h
      split at h <;> cases h
      rfl
  | handled e how =>
      cases how <;> cases h
      rfl
  | accepted _ | picked _ | ended => cases h

/-- What is due for what is seen at the mailbox in a place is due for its subscriber. -/
theorem due?_of_mark {effect : DeliveryEffect} {mark : BoxMark} (hname : names[place]? = some name)
    (h : effect.mark? place = some mark) :
    (MailEffect.own effect).due? names = mark.report? name := by
  cases effect with
  | published e => cases h
  | accepted p e | picked p e | ended p =>
      -- Only a refusal and a panic are reported.
      rw [DeliveryEffect.mark?] at h
      split at h <;> cases h
      rfl
  | refused p e why =>
      rw [DeliveryEffect.mark?] at h
      split at h
      · rename_i hp
        cases h
        simp only [MailEffect.due?, MailEffect.notice?, BoxMark.report?, hp, hname, Option.map_some]
      · cases h
  | handled p e how =>
      rw [DeliveryEffect.mark?] at h
      split at h
      · rename_i hp
        cases h
        cases how with
        | handled | died => rfl
        | panicked panic =>
            simp only [MailEffect.due?, MailEffect.notice?, BoxMark.report?, hp, hname,
              Option.map_some]
      · cases h

/-- What is due for an effect in which the mailbox has no part is about another. -/
theorem aboutOther_of_due? {effect : DeliveryEffect} {n : Notice}
    (hnone : effect.mark? place = none) (h : (MailEffect.own effect).due? names = some n) :
    AboutOther names place n := by
  cases effect with
  | published e | accepted p e | picked p e | ended p => cases h
  | refused p e why =>
      rw [DeliveryEffect.mark?, ite_eq_right_iff] at hnone
      simp only [MailEffect.due?, MailEffect.notice?] at h
      split at h
      · cases h
      · -- It left no mark at this place, so it was at another one.
        rcases Option.map_eq_some_iff.mp h with ⟨other, hother, rfl⟩
        exact ⟨p, other, fun hp => Option.some_ne_none _ (hnone hp), hother, rfl⟩
  | handled p e how =>
      rw [DeliveryEffect.mark?, ite_eq_right_iff] at hnone
      cases how with
      | handled | died => cases h
      | panicked panic =>
          rcases Option.map_eq_some_iff.mp h with ⟨other, hother, rfl⟩
          exact ⟨p, other, fun hp => Option.some_ne_none _ (hnone hp), hother, rfl⟩

/-- What is due for all that a set does is what is due for one subscriber, amid what is
    about others. -/
theorem shuffle_dueFor (hname : names[place]? = some name) (shown : List MailEffect) :
    ∃ others, Shuffle (reportsFor name (marksAt place shown)) others (dueFor names shown) ∧
      ∀ n ∈ others, AboutOther names place n := by
  induction shown using List.reverseRecOn with
  | nil => exact ⟨[], .nil, fun _ h => absurd h List.not_mem_nil⟩
  | append_singleton before x ih =>
      rcases ih with ⟨others, hshuffle, habout⟩
      rw [marksAt_append, reportsFor_append, dueFor_append]
      cases x with
      | elsewhere e => exact ⟨others, hshuffle.append_left [], habout⟩
      | own effect =>
          cases hmark : effect.mark? place with
          | some mark =>
              -- Then it is due for this subscriber.
              have hnow : dueFor names [.own effect] =
                  reportsFor name (marksAt place [.own effect]) := by
                rw [marksAt_cons, hmark, dueFor, List.filterMap_cons, due?_of_mark hname hmark]
                rfl
              rw [hnow]
              exact ⟨others, hshuffle.append_left _, habout⟩
          | none =>
              have hnow : marksAt place [.own effect] = [] := by
                rw [marksAt_cons, hmark]
                rfl
              rw [hnow]
              -- Nothing was seen of this subscriber, so a report that is due is about another one.
              refine ⟨others ++ dueFor names [.own effect], ?_, fun n hn => ?_⟩
              · exact (List.append_nil _).symm ▸ hshuffle.append_right _
              · rcases List.mem_append.mp hn with hn | hn
                · exact habout n hn
                · rcases List.mem_filterMap.mp hn with ⟨x, hx, hdue⟩
                  cases List.mem_singleton.mp hx
                  exact aboutOther_of_due? hmark hdue

/-- A shuffle of what has a property and what has not is told apart by it. -/
theorem Shuffle.filter_eq {α : Type} {first second whole : List α} {p : α → Bool}
    (h : Shuffle first second whole) (hfirst : ∀ a ∈ first, p a = true)
    (hsecond : ∀ a ∈ second, p a = false) : whole.filter p = first := by
  induction h with
  | nil => rfl
  | left a h ih =>
      rw [List.filter_append, ih (fun b hb => hfirst b (List.mem_append_left _ hb)) hsecond,
        List.filter_singleton, hfirst a (List.mem_append_right _ (List.mem_singleton_self a))]
      rfl
  | right a h ih =>
      rw [List.filter_append, ih hfirst (fun b hb => hsecond b (List.mem_append_left _ hb)),
        List.filter_singleton, hsecond a (List.mem_append_right _ (List.mem_singleton_self a))]
      exact List.append_nil _

/-- If no other subscriber is called the same, the reports on one are those that bear its
    name. -/
theorem ReportedOn.filter_eq {marks : List BoxMark}
    (h : ReportedOn names place (reportsFor name marks) shown)
    (hunique : ∀ other, other ≠ place → names[other]? ≠ some name) :
    (reportedAmong shown).filter (fun n => n.integration = some name) = reportsFor name marks := by
  rcases h with ⟨others, hshuffle, habout⟩
  refine hshuffle.filter_eq (fun n hn => ?_) (fun n hn => ?_)
  · rcases List.mem_filterMap.mp hn with ⟨mark, -, hreport⟩
    exact decide_eq_true (integration_of_report? hreport)
  · rcases habout n hn with ⟨other, called, hother, hcalled, hn⟩
    refine decide_eq_false fun hsame => hunique other hother ?_
    rw [hcalled, ← hn, hsame]

namespace Delivery

variable {d d' : Delivery} {a : Happening}

/-- What shows of a step is what somebody else has published, or it is of the set. -/
theorem shown_of_happen (h : d.happen a = some (d', shown)) :
    (∃ e, shown = [.elsewhere e]) ∨ ∃ effects : List DeliveryEffect, shown = effects.map .own := by
  cases a with
  | elsewhere n =>
      cases h
      exact .inl ⟨_, rfl⟩
  | offer p e =>
      rcases Option.map_eq_some_iff.mp h with ⟨⟨after, effects⟩, -, h⟩
      exact .inr ⟨effects, (Prod.mk.inj h).2.symm⟩
  | step a =>
      cases a with
      | publish n => cases h
      | emit _ | pick _ | finish _ _ | shutdown | close _ =>
          rcases Option.map_eq_some_iff.mp h with ⟨⟨after, effects⟩, -, h⟩
          exact .inr ⟨effects, (Prod.mk.inj h).2.symm⟩

/-- What a set publishes of itself in a step is what is due. -/
theorem reportedAmong_of_happen (h : d.happen a = some (d', shown)) :
    reportedAmong shown = dueFor d.names shown := by
  rcases shown_of_happen h with ⟨e, rfl⟩ | ⟨effects, rfl⟩
  · -- What somebody else publishes counts on neither side.
    rfl
  · have hpublished := published_of_occurs (occurs_of_happen h)
    have hreported : reportedAmong (effects.map .own) =
        (publishedAmong (effects.map .own)).map Event.toNotice := by
      rw [reportedAmong, publishedAmong, List.map_filterMap, List.filterMap_map, List.filterMap_map]
      refine List.filterMap_congr fun effect _ => ?_
      cases effect <;> rfl
    have hdue : dueFor d.names (effects.map .own) = calledFor d.names (effects.map .own) := by
      rw [dueFor, calledFor, List.filterMap_map, List.filterMap_map]
      rfl
    rw [hreported, hdue, hpublished]

end Delivery

end Reports

namespace Subscriber

/-- What a subscriber goes through in a set: it has this mailbox, this was seen at it, and
    it is reported on as this calls for. -/
structure GoesThrough (s : Subscriber) (place : Nat) (subscribers : List (String × Nat))
    (d : Delivery) (shown : List MailEffect) (v : Solo) : Prop where
  box : d.fanout.boxes[place]? = some v.box
  marks : marksAt place shown = v.marks
  reported : ReportedOn (subscribers.map Prod.fst) place (reportsFor s.name v.marks) shown
  /-- If no other subscriber is called the same, these are the reports that bear its
      name. -/
  named : (∀ other, other ≠ place → (subscribers.map Prod.fst)[other]? ≠ some s.name) →
    (reportedAmong shown).filter (fun n => n.integration = some s.name) =
      reportsFor s.name v.marks

variable {s : Subscriber} {place place' : Nat} {subscribers subscribers' : List (String × Nat)}
  {actions actions' : List Happening} {d d' : Delivery} {shown shown' : List MailEffect}

/-- One more step of the set is what it is to the subscriber. -/
theorem life_append (s : Subscriber) (place : Nat) (before : List Happening) (a : Happening) :
    s.life (stepsAt place (before ++ [a])) =
      (a.boxStep? place).toList.foldl s.live (s.life (stepsAt place before)) := by
  rw [stepsAt, List.filterMap_append, life, List.foldl_append,
    List.filterMap_eq_flatMap_toList _ [a], List.flatMap_singleton]
  rfl

/-- A subscriber in a set lives as it does alone. -/
theorem Hosted.life_eq (h : s.Hosted place subscribers actions d shown) :
    d.fanout.boxes[place]? = some (s.life (stepsAt place actions)).box ∧
      marksAt place shown = (s.life (stepsAt place actions)).marks := by
  rcases h with ⟨hlisted, ⟨fanout, hmake, ring, nextSeq, hrun⟩, hfits⟩
  -- Along the run, with the fit under the induction: it is known of the whole run only, and
  -- each beginning inherits it.
  refine runOf_induction (fun before u seen =>
    (∀ earlier mark, earlier ++ [mark] <+: marksAt place seen → s.Fits earlier mark) →
      u.fanout.boxes[place]? = some (s.life (stepsAt place before)).box ∧
        marksAt place seen = (s.life (stepsAt place before)).marks)
    (fun _ => ?_) (fun before u seen a v now _ _ ih hact hfits => ?_) hrun hfits
  · rw [Fanout.eq_of_make hmake, Fanout.ofSubscribers, List.getElem?_map, hlisted]
    exact ⟨rfl, rfl⟩
  · rw [marksAt_append] at hfits ⊢
    rcases ih fun earlier mark hpre => hfits earlier mark (hpre.trans (List.prefix_append _ _))
      with ⟨hbox, hmarks⟩
    rcases Delivery.turn_of_occurs (Delivery.occurs_of_happen hact) hbox with ⟨m', hbox', hturn⟩
    have hlive := live_of_turn hturn fun mark hmark => hfits _ mark (by rw [hmark, hmarks])
    rw [Delivery.causes_of_happen hact hbox] at hlive
    rw [life_append, hlive, hmarks]
    exact ⟨hbox', rfl⟩

/-- The subscribers keep their names, and what a set publishes itself is what is due. -/
theorem Hosted.reportedAmong_eq (h : s.Hosted place subscribers actions d shown) :
    d.names = subscribers.map Prod.fst ∧
      reportedAmong shown = dueFor (subscribers.map Prod.fst) shown := by
  rcases h with ⟨-, ⟨fanout, hmake, ring, nextSeq, hrun⟩, -⟩
  refine runOf_induction (fun _ u seen => u.names = subscribers.map Prod.fst ∧
    reportedAmong seen = dueFor (subscribers.map Prod.fst) seen) ⟨?_, rfl⟩
    (fun before u seen a v now _ _ ih hact => ⟨?_, ?_⟩) hrun
  · rw [Delivery.names, Fanout.eq_of_make hmake, Fanout.ofSubscribers, List.map_map]
    rfl
  · exact (Delivery.names_of_occurs (Delivery.occurs_of_happen hact)).trans ih.1
  · rw [reportedAmong_append, dueFor_append, ih.2, Delivery.reportedAmong_of_happen hact, ih.1]

/-- What is reported on a subscriber is told by what is seen at its mailbox. -/
theorem Hosted.reportedOn (h : s.Hosted place subscribers actions d shown) :
    ReportedOn (subscribers.map Prod.fst) place
      (reportsFor s.name (marksAt place shown)) shown := by
  have hname : (subscribers.map Prod.fst)[place]? = some s.name := by
    rw [List.getElem?_map, h.listed, Option.map_some]
  rw [ReportedOn, h.reportedAmong_eq.2]
  exact shuffle_dueFor hname shown

/-- What a subscriber goes through in a set is its life. -/
theorem Hosted.goesThrough (h : s.Hosted place subscribers actions d shown) :
    s.GoesThrough place subscribers d shown (s.life (stepsAt place actions)) where
  box := h.life_eq.1
  marks := h.life_eq.2
  reported := h.life_eq.2 ▸ h.reportedOn
  named hunique := h.life_eq.2 ▸ h.reportedOn.filter_eq hunique

/-- In any two sets a subscriber goes through the same, if the same events come to it and
    its worker takes its steps between the same of them: its mailbox is the same, and so
    are the events that it has accepted, refused, taken up and handled, and the reports
    on it. The beginning of a run is a run, so it is the same at every moment, also when
    the sets are closing and after their end. -/
theorem undisturbed (h : s.Hosted place subscribers actions d shown)
    (h' : s.Hosted place' subscribers' actions' d' shown')
    (hsteps : stepsAt place actions = stepsAt place' actions') :
    ∃ v, s.GoesThrough place subscribers d shown v ∧
      s.GoesThrough place' subscribers' d' shown' v :=
  ⟨s.life (stepsAt place actions), h.goesThrough, hsteps ▸ h'.goesThrough⟩

/-- What is seen at a mailbox fits to the subscriber if it does so entry by entry. -/
theorem fits_of_getElem {marks : List BoxMark}
    (h : ∀ i, (hi : i < marks.length) → s.Fits (marks.take i) marks[i])
    (before : List BoxMark) (mark : BoxMark) (hpre : before ++ [mark] <+: marks) :
    s.Fits before mark := by
  rcases hpre with ⟨rest, rfl⟩
  simpa using h before.length (by simp)

/-- A subscriber that breaks off at its second event, alone and between one that is stuck
    and one whose worker ends too early. The neighbours are reported on as well, but not
    under its name. -/
theorem undisturbed_between_stuck_and_gone :
    let s : Subscriber := {
      name := "quiet", capacity := 1,
      handles := fun events => if events.length = 2 then .panicked (.text "boom") else .handled }
    let started : Event := { kind := .serviceStarting, seq := 0 }
    let stopping : Event := { kind := .serviceStopping, seq := 1 }
    let stopped : Event := { kind := .serviceStopped, seq := 2 }
    let actions : List Happening := [.step (.emit started), .step (.pick 0),
      .step (.emit stopping), .step (.emit stopped), .step (.finish 0 .handled), .step (.pick 0),
      .step (.finish 0 (.panicked (.text "boom"))), .step .shutdown, .step (.close 0)]
    let actions' : List Happening := [.step (.emit started), .step (.pick 2), .step (.pick 1),
      .step (.finish 2 .died), .offer 0 stopping, .offer 1 stopping,
      .elsewhere { kind := .healthChecked }, .offer 2 stopping, .step (.emit stopped),
      .step (.finish 1 .handled), .step (.pick 1), .step .shutdown,
      .step (.finish 1 (.panicked (.text "boom"))), .step (.close 1)]
    let others := [("stuck", 0), ("quiet", 1), ("gone", 2)]
    let marks : List BoxMark := [.accepted started, .picked started, .accepted stopping,
      .refused stopped .full, .handled started .handled, .picked stopping,
      .handled stopping (.panicked (.text "boom")), .ended]
    ∃ d shown d' shown', s.Hosted 0 [("quiet", 1)] actions d shown ∧
      s.Hosted 1 others actions' d' shown' ∧
      stepsAt 0 actions = stepsAt 1 actions' ∧
      reportedAmong shown = [.overflow "quiet" "full", .panicked "quiet" "boom"] ∧
      reportedAmong shown' = [.overflow "stuck" "full", .overflow "gone" "closed",
        .overflow "stuck" "full", .overflow "quiet" "full", .overflow "gone" "closed",
        .panicked "quiet" "boom"] ∧
      ∃ v, v.marks = marks ∧ s.GoesThrough 0 [("quiet", 1)] d shown v ∧
        s.GoesThrough 1 others d' shown' v := by
  intro s started stopping stopped actions actions' others marks
  have hlook : ((runOf Delivery.happen
      { ring := .ofCapacity 2, nextSeq := 0, fanout := .ofSubscribers [("quiet", 1)] } actions).map
        fun last => (marksAt 0 last.2, reportedAmong last.2)) =
      some (marks, [.overflow "quiet" "full", .panicked "quiet" "boom"]) := by
    decide +kernel
  have hlook' : ((runOf Delivery.happen
      { ring := .ofCapacity 1, nextSeq := 7, fanout := .ofSubscribers others } actions').map
        fun last => (marksAt 1 last.2, reportedAmong last.2)) =
      some (marks, [.overflow "stuck" "full", .overflow "gone" "closed",
        .overflow "stuck" "full", .overflow "quiet" "full", .overflow "gone" "closed",
        .panicked "quiet" "boom"]) := by
    decide +kernel
  rcases Option.map_eq_some_iff.mp hlook with ⟨⟨d, shown⟩, hrun, hlast⟩
  rcases Option.map_eq_some_iff.mp hlook' with ⟨⟨d', shown'⟩, hrun', hlast'⟩
  rcases Prod.mk.inj hlast with ⟨hmarks, hreported⟩
  rcases Prod.mk.inj hlast' with ⟨hmarks', hreported'⟩
  -- The marks are the same in both runs, so what the subscriber does is checked once.
  have hfits : ∀ before mark, before ++ [mark] <+: marks → s.Fits before mark :=
    fits_of_getElem (by decide)
  have hhosted : s.Hosted 0 [("quiet", 1)] actions d shown :=
    ⟨rfl, ⟨_, rfl, _, _, hrun⟩, hmarks.symm ▸ hfits⟩
  have hhosted' : s.Hosted 1 others actions' d' shown' :=
    ⟨rfl, ⟨_, rfl, _, _, hrun'⟩, hmarks'.symm ▸ hfits⟩
  have hsteps : stepsAt 0 actions = stepsAt 1 actions' := by decide
  rcases undisturbed hhosted hhosted' hsteps with ⟨v, hv, hv'⟩
  exact ⟨d, shown, d', shown', hhosted, hhosted', hsteps, hreported, hreported',
    v, hv.marks.symm.trans hmarks, hv, hv'⟩

end Subscriber

end Steward
