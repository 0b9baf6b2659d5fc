import Steward.Proofs.Course
import Steward.Proofs.Following

/-!
# In Which Order Events Arrive

What becomes of every event on its way to those who listen.

An event gets its number, goes onto the ring, is taken off it by the relay or passed
over, waits in a queue for a worker, and is handled in the end. While it is on its
way the workers publish into the same ring, the ring pushes out what is too old, and
the service may go. `Heard` says how all of this stands at one moment, and a step of
anybody keeps to it.

The numbers of events are given out by one count for everything that runs beside the
service, so a service does not get all of them. A `Gathering` is a service with the
receivers that were taken from it, among others who take numbers too. It also lets
the callers drop the calls that are on their way, and the service with them.

When the service has gone the relay stops at some point with events unread, and the
workers go on for a while. Once they have ended as well nothing more is published
(`Service.HasEnded.step`), so what is unread then is what nobody will hear of.

## Main definitions

* `System.Quiet`: No call is on its way.
* `Service.HasEnded`: The service, the relay and the workers have gone.
* `Gathering`: A service and those who listen to it.
* `Heard`: How a gathering stands with the events that were published.
* `Conveyed`: What has become of all events.

## Theorems

* `HasEnded.step`: Who has ended publishes nothing.
* `Heard.step`: A step keeps account of the events.
* `events_arrive_in_order`: What has become of all events of a service.
-/

namespace Steward

variable {ι : Type}

namespace System

variable {s t : System ι} {a : Action ι} {effects : List (Effect ι)}

/-- No call is on its way. -/
def Quiet (s : System ι) : Prop :=
  ∀ c ∈ s.calls, ∃ o, c = .ended o

theorem Quiet.of_calls (hs : s.Quiet) (h : t.calls = s.calls) : t.Quiet :=
  fun c hc => hs c (h ▸ hc)

/-- Where all calls have ended nothing is published that no new call publishes. -/
theorem Step.of_quiet (hquiet : s.Quiet) (hnew : a.isNewCall = false) (h : Step s a t effects) :
    publishedIn effects = [] ∧ t.calls = s.calls := by
  have hended : ∀ {call : Nat} {c : Call ι}, s.calls[call]? = some c → ∃ o, c = .ended o :=
    fun hc => hquiet _ (List.mem_of_getElem? hc)
  cases h with
  | elsewhere h =>
      cases h with
      | serve | attach | begin => cases hnew
      | runServer _ | hear => exact ⟨rfl, rfl⟩
      | endServer _ =>
          refine ⟨?_, rfl⟩
          rw [publishedIn, List.filterMap_cons, List.filterMap_map, List.filterMap_eq_nil_iff]
          exact fun _ _ => rfl
      -- No call is on its way that could take any of these steps.
      | announceRegistered hc =>
          rcases hended hc with ⟨o, ho⟩
          cases ho
      | startAdmitted hp _ | launched hp | startMoved hp _ | startEnded hp _ =>
          rcases hended (startPhase?_eq_some.mp hp) with ⟨o, ho⟩
          cases ho
      | statusEntered hp | statusMoved hp _ | statusEnded hp _ =>
          rcases hended (statusPhase?_eq_some.mp hp) with ⟨o, ho⟩
          cases ho
  | approached hp | stopMoved hp _ | stopEnded hp _ =>
      rcases hended (stopPhase?_eq_some.mp hp) with ⟨o, ho⟩
      cases ho

end System

namespace Service

variable {s t : Service ι} {a : ServiceAction ι} {effects : List (ServiceEffect ι)}

theorem quiet_of_isQuiet (h : s.isQuiet = true) : s.system.Quiet := by
  intro c hc
  have hc := List.all_eq_true.mp h c hc
  cases c with
  | ended o => exact ⟨o, rfl⟩
  | _ => cases hc

/-- A service that has gone has no call on its way, and no step makes one. -/
theorem quiet_of_act (hs : s.relay.released = true → s.system.Quiet)
    (hact : s.act a = some (t, effects)) : t.relay.released = true → t.system.Quiet := by
  cases a with
  | call a =>
      simp only [act] at hact
      split at hact
      · cases hact
      · rename_i hnew
        rcases Option.map_eq_some_iff.mp hact with ⟨⟨system, shown⟩, hcall, heq⟩
        cases heq
        rw [delivery_publishAll]
        -- After the release no new call comes in, and the old ones have ended.
        intro hreleased
        have hreleased : s.relay.released = true := hreleased
        rw [hreleased, Bool.true_and, Bool.not_eq_true] at hnew
        have hquiet := hs hreleased
        exact hquiet.of_calls ((System.step_of_act hcall).of_quiet hquiet hnew).2
  | relay a =>
      cases a with
      | release =>
          simp only [act] at hact
          split at hact
          · -- The release itself waits until every call has ended.
            rename_i hcond
            cases hact
            exact fun _ => quiet_of_isQuiet (Bool.and_eq_true_iff.mp hcond).1
          · cases hact
      | _ =>
          cases step_of_act hact with
          | moved hmove => cases hmove <;> exact hs

/-- A service with subscribers that has gone, and whose workers have all ended. -/
structure HasEnded (s : Service ι) : Prop where
  released : s.relay.released = true
  quiet : s.system.Quiet
  workers : s.relay.delivery.fanout.hasEnded = true

/-- Nothing is published any more by a service that has ended, and no step makes it
    something else. -/
theorem HasEnded.step (hs : s.HasEnded) (hact : s.act a = some (t, effects)) :
    noticesIn effects = [] ∧ t.relay.next = s.relay.next ∧ t.HasEnded := by
  rcases hs with ⟨hreleased, hquiet, hworkers⟩
  have hall := hworkers
  rw [Fanout.hasEnded, Bool.and_eq_true, List.all_eq_true] at hall
  have hended : ∀ {place : Nat} {m : Mailbox}, s.relay.delivery.fanout.boxes[place]? = some m →
      m.worker = .ended := by
    intro place m hbox
    exact of_decide_eq_true (hall.2 m (List.mem_of_getElem? hbox))
  cases a with
  | call a =>
      simp only [act, hreleased, Bool.true_and] at hact
      split at hact
      · cases hact
      · rename_i hnew
        rcases Option.map_eq_some_iff.mp hact with ⟨⟨system, shown⟩, hcall, heq⟩
        cases heq
        -- The tasks of the server may still go on; they publish nothing.
        rcases (System.step_of_act hcall).of_quiet hquiet (Bool.eq_false_iff.mpr hnew)
          with ⟨hnone, hcalls⟩
        rw [noticesIn_call, hnone]
        exact ⟨rfl, rfl, hreleased, hquiet.of_calls hcalls, hworkers⟩
  | relay a =>
      cases step_of_act hact with
      | gone hgone =>
          rw [hreleased] at hgone
          cases hgone
      | moved hmove =>
          cases hmove with
          | took hlistens _ | missed hlistens _ | retired hlistens _ =>
              -- The relay has ended, and so has every worker, so none of them takes a step.
              rw [Relay.listening, Bool.and_eq_true, hall.1] at hlistens
              cases hlistens.2
          | picked hbox hpick =>
              unfold Mailbox.pick at hpick
              rw [hended hbox] at hpick
              cases hpick
          | finished hbox hbusy =>
              rw [hended hbox] at hbusy
              cases hbusy
          | closed hbox _ hidle _ =>
              rw [hended hbox] at hidle
              cases hidle

end Service

/-- A service, with the receivers that were taken from it. -/
structure Gathering (ι : Type) where
  service : Service ι
  /-- For every receiver the number of the event in the ring that it takes next. -/
  places : List Nat := []

/-- What can happen to a service and those who listen to it. -/
inductive GatheringAction (ι : Type) where
  /-- A call, the relay or a subscriber takes a step, or the service goes. -/
  | service (action : ServiceAction ι)
  /-- The callers drop the calls that are on their way, and with them the service. -/
  | abandon
  /-- Somebody takes a receiver. -/
  | subscribe
  /-- A receiver takes what comes next. -/
  | receive (receiver : Nat)
  /-- So many numbers go to events that are not of this service. -/
  | elsewhere (count : Nat)

/-- What such a step shows. -/
inductive GatheringEffect (ι : Type) where
  /-- An event is published, under the number it got. -/
  | published (event : Event)
  | service (effect : ServiceEffect ι)
  /-- A receiver is told something. -/
  | received (receiver : Nat) (got : Received Event)

namespace Gathering

/-- One step, and what it shows. No receiver can be taken from a service that is
    gone, but those that were taken stay. -/
def act (g : Gathering ι) :
    GatheringAction ι → Option (Gathering ι × List (GatheringEffect ι))
  | .service a => (g.service.act a).map fun (service, effects) =>
      ({ g with service },
        (g.service.relay.delivery.stamped (noticesIn effects)).map .published ++
          effects.map .service)
  | .abandon =>
    if g.service.relay.released then none
    else some ({ g with service :=
      { system := { g.service.system with calls := [] }, relay := g.service.relay.release } }, [])
  | .subscribe =>
    if g.service.relay.released then none
    else some ({ g with places := g.places ++ [g.service.relay.delivery.ring.total] }, [])
  | .receive receiver =>
    match g.places[receiver]? with
    | none => none
    | some next =>
      match g.service.relay.delivery.ring.receive next with
      | (some got, next) =>
        some ({ g with places := g.places.set receiver next }, [.received receiver got])
      | (none, _) => none
  | .elsewhere count =>
    let d := g.service.relay.delivery
    some ({ g with service.relay.delivery := { d with nextSeq := d.nextSeq + count } }, [])

/-- Everything that is published, among effects. -/
def publishedBy (shown : List (GatheringEffect ι)) : List Event :=
  shown.filterMap fun
    | .published e => some e
    | _ => none

/-- What the service shows, among effects. -/
def ofService (shown : List (GatheringEffect ι)) : List (ServiceEffect ι) :=
  shown.filterMap fun
    | .service e => some e
    | _ => none

/-- What a receiver was told, among effects. -/
def receivedBy (receiver : Nat) (shown : List (GatheringEffect ι)) : List (Received Event) :=
  shown.filterMap fun
    | .received r got => if r = receiver then some got else none
    | _ => none

section Observed

variable (shown more : List (GatheringEffect ι)) (events : List Event)
  (effects : List (ServiceEffect ι)) (receiver : Nat)

theorem publishedBy_append :
    publishedBy (shown ++ more) = publishedBy shown ++ publishedBy more :=
  List.filterMap_append

theorem ofService_append : ofService (shown ++ more) = ofService shown ++ ofService more :=
  List.filterMap_append

theorem receivedBy_append :
    receivedBy receiver (shown ++ more) = receivedBy receiver shown ++ receivedBy receiver more :=
  List.filterMap_append

theorem publishedBy_service :
    publishedBy (events.map .published ++ effects.map .service : List (GatheringEffect ι)) =
      events := by
  have hnone : publishedBy (effects.map .service) = [] := by
    rw [publishedBy, List.filterMap_map, List.filterMap_eq_nil_iff]
    exact fun _ _ => rfl
  rw [publishedBy_append, hnone, List.append_nil, publishedBy, List.filterMap_map]
  exact List.filterMap_some

theorem ofService_service :
    ofService (events.map .published ++ effects.map .service : List (GatheringEffect ι)) =
      effects := by
  have hnone : ofService (events.map .published : List (GatheringEffect ι)) = [] := by
    rw [ofService, List.filterMap_map, List.filterMap_eq_nil_iff]
    exact fun _ _ => rfl
  rw [ofService_append, hnone, List.nil_append, ofService, List.filterMap_map]
  exact List.filterMap_some

theorem receivedBy_service :
    receivedBy receiver (events.map .published ++ effects.map .service :
      List (GatheringEffect ι)) = [] := by
  rw [receivedBy_append, receivedBy, receivedBy, List.filterMap_map, List.filterMap_map,
    List.append_eq_nil_iff, List.filterMap_eq_nil_iff, List.filterMap_eq_nil_iff]
  exact ⟨fun _ _ => rfl, fun _ _ => rfl⟩

theorem receivedBy_received (other : Nat) (got : Received Event) :
    receivedBy other [(.received receiver got : GatheringEffect ι)] =
      if receiver = other then [got] else [] := by
  by_cases h : receiver = other <;>
    simp only [receivedBy, List.filterMap_cons, h, if_true, if_false, List.filterMap_nil]

end Observed

/-- How a gathering stands with the events that were published: the ring keeps the
    newest of them, and whoever takes some off it was told what accounts for all up to
    its place. -/
structure Heard (g : Gathering ι) (shown : List (GatheringEffect ι)) : Prop where
  keeps : g.service.relay.delivery.ring.Keeps (publishedBy shown)
  numbered : (publishedBy shown).Pairwise fun e e' => e.seq < e'.seq
  /-- The count is beyond all numbers that were given. -/
  below : ∀ e ∈ publishedBy shown, e.seq < g.service.relay.delivery.nextSeq
  relay : Follows (publishedBy shown) 0 g.service.relay.next (toldToRelay (ofService shown))
  queues : ∀ place, (pickedBy place (ofService shown) ++ g.service.relay.queueAt place).Sublist
    (emittedIn (ofService shown))
  receivers : ∀ receiver next, g.places[receiver]? = some next →
    ∃ first, Follows (publishedBy shown) first next (receivedBy receiver shown)
  /-- Nobody has received anything who was not taken. -/
  nobody : ∀ receiver, g.places.length ≤ receiver → receivedBy receiver shown = []
  gone : g.service.relay.released = true → g.service.system.Quiet

variable {g g' : Gathering ι} {shown now : List (GatheringEffect ι)}

/-- The numbers that are given in a row grow. -/
theorem pairwise_stamped (d : Delivery) (notices : List Notice) :
    (d.stamped notices).Pairwise (fun e e' => e.seq < e'.seq) ∧
      ∀ e ∈ d.stamped notices, d.nextSeq ≤ e.seq ∧ e.seq < d.nextSeq + notices.length := by
  constructor
  · rw [List.pairwise_iff_getElem]
    intro i j hi hj hij
    rw [Notice.seq_of_getElem?_stampAll _ _ (List.getElem?_eq_getElem hi),
      Notice.seq_of_getElem?_stampAll _ _ (List.getElem?_eq_getElem hj)]
    omega
  · intro e he
    rcases List.getElem?_of_mem he with ⟨i, hi⟩
    have hlt : i < notices.length := by
      rw [← Notice.length_stampAll notices d.nextSeq]
      exact (List.getElem?_eq_some_iff.mp hi).1
    rw [Notice.seq_of_getElem?_stampAll _ _ hi]
    omega

namespace Heard

theorem fresh (settings : Settings) (subscribers : List (String × Nat)) :
    Heard ({ service := .fresh settings subscribers } : Gathering ι) [] where
  keeps := Broadcast.keeps_ofCapacity _
  numbered := List.Pairwise.nil
  below := nofun
  relay := .start []
  queues := by
    intro place
    rw [Relay.queueAt, Service.fresh]
    simp only [Fanout.ofSubscribers, List.getElem?_map, Option.map_map]
    cases subscribers[place]? <;> exact List.Sublist.refl _
  receivers := by
    intro receiver next h
    cases h
  nobody := fun _ _ => rfl
  gone := nofun

/-- A step of the service takes some events further. -/
theorem service {a : ServiceAction ι} {service : Service ι} {effects : List (ServiceEffect ι)}
    (h : g.Heard shown) (hact : g.service.act a = some (service, effects)) :
    Heard { g with service } (shown ++
      ((g.service.relay.delivery.stamped (noticesIn effects)).map .published ++
        effects.map .service)) := by
  have hstep := Service.step_of_act hact
  have hring := hstep.ring_eq
  have hstamped := pairwise_stamped g.service.relay.delivery (noticesIn effects)
  refine ⟨?_, ?_, ?_, ?_, fun place => ?_, fun receiver next hnext => ?_, fun receiver hlt => ?_,
    Service.quiet_of_act h.gone hact⟩
  · rw [publishedBy_append, publishedBy_service, hring.1]
    exact h.keeps.publishAll _
  · rw [publishedBy_append, publishedBy_service, List.pairwise_append]
    refine ⟨h.numbered, hstamped.1, fun e he e' he' => ?_⟩
    -- What is new is numbered from the count on, which is beyond what was there.
    have := h.below e he
    have := (hstamped.2 e' he').1
    omega
  · rw [publishedBy_append, publishedBy_service, hring.2]
    intro e he
    rcases List.mem_append.mp he with he | he
    · have := h.below e he
      omega
    · exact (hstamped.2 e he).2
  · rw [publishedBy_append, publishedBy_service, ofService_append, ofService_service,
      toldToRelay_append]
    rcases hstep.told with ⟨hsame, hnone⟩ | ⟨got, hgot, hone⟩
    · rw [hnone, List.append_nil, hsame]
      exact h.relay.append _
    · rw [hone]
      exact (h.relay.receive h.keeps hgot).append _
  · rw [ofService_append, ofService_service, pickedBy_append, emittedIn_append]
    -- What the subscriber takes up comes off what waits for it.
    have hqueue := hstep.queue_sublist place
    rw [List.append_assoc]
    refine (hqueue.append_left _).trans ?_
    rw [← List.append_assoc]
    exact (h.queues place).append_right _
  · rw [publishedBy_append, publishedBy_service, receivedBy_append, receivedBy_service,
      List.append_nil]
    rcases h.receivers receiver next hnext with ⟨first, hfirst⟩
    exact ⟨first, hfirst.append _⟩
  · rw [receivedBy_append, receivedBy_service, List.append_nil]
    exact h.nobody receiver hlt

/-- Somebody takes a receiver, who has heard nothing yet. -/
theorem subscribe (h : g.Heard shown) :
    Heard { g with places := g.places ++ [g.service.relay.delivery.ring.total] } shown := by
  refine ⟨h.keeps, h.numbered, h.below, h.relay, h.queues, fun receiver next hnext => ?_,
    fun receiver hlt => ?_, h.gone⟩
  · rcases Nat.lt_trichotomy receiver g.places.length with hlt | rfl | hlt
    · rw [List.getElem?_append_left hlt] at hnext
      exact h.receivers receiver next hnext
    · rw [List.getElem?_concat_length, Option.some.injEq] at hnext
      -- The new receiver begins at the end of the ring.
      rw [h.nobody _ (Nat.le_refl _), ← hnext, h.keeps.total]
      exact ⟨_, .start _⟩
    · rw [List.getElem?_eq_none (by rw [List.length_append, List.length_singleton]; omega)] at hnext
      cases hnext
  · rw [List.length_append, List.length_singleton] at hlt
    exact h.nobody receiver (by omega)

/-- A receiver takes what comes next. -/
theorem receive {receiver next after : Nat} {got : Received Event} (h : g.Heard shown)
    (hnext : g.places[receiver]? = some next)
    (hgot : g.service.relay.delivery.ring.receive next = (some got, after)) :
    Heard { g with places := g.places.set receiver after }
      (shown ++ [.received receiver got]) := by
  have hlt : receiver < g.places.length := (List.getElem?_eq_some_iff.mp hnext).1
  have hpublished : publishedBy (shown ++ [.received receiver got]) = publishedBy shown := by
    rw [publishedBy_append]
    exact List.append_nil _
  have hservice : ofService (shown ++ [.received receiver got]) = ofService shown := by
    rw [ofService_append]
    exact List.append_nil _
  -- Nothing is published and the relay stands where it stood; only this receiver has gone on.
  refine ⟨hpublished ▸ h.keeps, hpublished ▸ h.numbered, hpublished ▸ h.below, ?_, ?_,
    fun other place hplace => ?_, fun other hother => ?_, h.gone⟩
  · rw [hpublished, hservice]
    exact h.relay
  · rw [hservice]
    exact h.queues
  · rw [hpublished, receivedBy_append]
    by_cases hother : receiver = other
    · subst hother
      rw [List.getElem?_set_self hlt, Option.some.injEq] at hplace
      subst hplace
      rcases h.receivers receiver next hnext with ⟨first, hfirst⟩
      refine ⟨first, ?_⟩
      rw [receivedBy_received, if_pos rfl]
      exact hfirst.receive h.keeps hgot
    · rw [List.getElem?_set_ne hother] at hplace
      rw [receivedBy_received, if_neg hother, List.append_nil]
      exact h.receivers other place hplace
  · rw [List.length_set] at hother
    -- The receiver that reads is among those there are.
    have hne : receiver ≠ other := by omega
    rw [receivedBy_append, receivedBy_received, if_neg hne, List.append_nil]
    exact h.nobody other hother

/-- A step keeps account of the events. -/
theorem step {a : GatheringAction ι} (h : g.Heard shown) (hact : g.act a = some (g', now)) :
    g'.Heard (shown ++ now) := by
  cases a with
  | service a =>
      rcases Option.map_eq_some_iff.mp hact with ⟨⟨service, effects⟩, hservice, heq⟩
      cases heq
      exact h.service hservice
  | abandon =>
      simp only [act] at hact
      split at hact
      · cases hact
      · cases hact
        rw [List.append_nil]
        -- No call is left.
        exact ⟨h.keeps, h.numbered, h.below, h.relay, h.queues, h.receivers, h.nobody,
          fun _ _ hc => nomatch hc⟩
  | subscribe =>
      simp only [act] at hact
      split at hact
      · cases hact
      · cases hact
        rw [List.append_nil]
        exact h.subscribe
  | receive receiver =>
      simp only [act] at hact
      split at hact
      · cases hact
      · rename_i next hnext
        split at hact
        · rename_i got after hgot
          cases hact
          exact h.receive hnext hgot
        · cases hact
  | elsewhere count =>
      -- Others only make the numbers go up.
      cases hact
      rw [List.append_nil]
      exact ⟨h.keeps, h.numbered, fun e he => Nat.lt_add_right count (h.below e he), h.relay,
        h.queues, h.receivers, h.nobody, h.gone⟩

end Heard

/-- Nothing is published any more in a gathering whose service has ended, and the
    relay stays where it is. -/
theorem silent_of_hasEnded {actions : List (GatheringAction ι)} (h : g.service.HasEnded)
    (hrun : runOf act g actions = some (g', now)) :
    publishedBy now = [] ∧ g'.service.relay.next = g.service.relay.next := by
  -- That all has ended is carried along, since each step needs it again.
  have hinv : publishedBy now = [] ∧ g'.service.relay.next = g.service.relay.next ∧
      g'.service.HasEnded := by
    refine runOf_induction (fun _ g' now => publishedBy now = [] ∧
      g'.service.relay.next = g.service.relay.next ∧ g'.service.HasEnded) ⟨rfl, rfl, h⟩ ?_ hrun
    rintro before u shown a v now - - ⟨hquiet, hnext, hu⟩ hact
    rw [publishedBy_append, hquiet, List.nil_append]
    cases a with
    | service a =>
        rcases Option.map_eq_some_iff.mp hact with ⟨⟨service, effects⟩, hservice, heq⟩
        cases heq
        rcases hu.step hservice with ⟨hnone, hsame, hv⟩
        rw [publishedBy_service, hnone]
        exact ⟨rfl, hsame.trans hnext, hv⟩
    | abandon =>
        -- The service is let go already, and nobody can subscribe to it any more.
        simp only [act, hu.released, if_true] at hact
        cases hact
    | subscribe =>
        simp only [act, hu.released, if_true] at hact
        cases hact
    | receive receiver =>
        simp only [act] at hact
        split at hact
        · cases hact
        · split at hact
          · cases hact
            exact ⟨rfl, hnext, hu⟩
          · cases hact
    | elsewhere count =>
        cases hact
        exact ⟨rfl, hnext, hu.released, hu.quiet, hu.workers⟩
  exact ⟨hinv.1, hinv.2.1⟩

/-- What has become of the events that were published, for everybody who listens. -/
structure Conveyed (g : Gathering ι) (shown : List (GatheringEffect ι)) : Prop where
  numbered : (publishedBy shown).Pairwise fun e e' => e.seq < e'.seq
  /-- The relay was told what accounts for all events but those it has not read. -/
  relay : Follows (publishedBy shown) 0 g.service.relay.next (toldToRelay (ofService shown))
  /-- What it hands out is what it was told, as far as that was not lost. -/
  emitted : emittedIn (ofService shown) = itemsIn (toldToRelay (ofService shown)) ∧
    (emittedIn (ofService shown)).Sublist (publishedBy shown) ∧
    (emittedIn (ofService shown)).Pairwise fun e e' => e.seq < e'.seq
  /-- Handed out, announced as lost, or unread: there is nothing else. -/
  total : (emittedIn (ofService shown)).length + lossIn (toldToRelay (ofService shown)) +
    ((publishedBy shown).drop g.service.relay.next).length = (publishedBy shown).length
  subscribers : ∀ place, (pickedBy place (ofService shown)).Sublist (emittedIn (ofService shown)) ∧
    (pickedBy place (ofService shown)).Pairwise fun e e' => e.seq < e'.seq
  receivers : ∀ receiver next, g.places[receiver]? = some next →
    (∃ first, Follows (publishedBy shown) first next (receivedBy receiver shown)) ∧
    (itemsIn (receivedBy receiver shown)).Sublist (publishedBy shown) ∧
    (itemsIn (receivedBy receiver shown)).Pairwise fun e e' => e.seq < e'.seq
  /-- Once the relay and all workers have ended there comes nothing more, so what is
      unread then stays unread. -/
  ended : g.service.relay.released = true → g.service.relay.delivery.fanout.hasEnded = true →
    ∀ actions g' later, runOf act g actions = some (g', later) →
      publishedBy later = [] ∧ g'.service.relay.next = g.service.relay.next

theorem Heard.conveyed (h : g.Heard shown) : g.Conveyed shown := by
  have hemitted : (emittedIn (ofService shown)).Sublist (publishedBy shown) := by
    rw [emittedIn_eq]
    exact h.relay.sublist
  have hpicked : ∀ place, (pickedBy place (ofService shown)).Sublist
      (emittedIn (ofService shown)) :=
    fun place => (List.sublist_append_left _ _).trans (h.queues place)
  refine ⟨h.numbered, h.relay, ⟨emittedIn_eq _, hemitted, h.numbered.sublist hemitted⟩, ?_,
    fun place => ⟨hpicked place, h.numbered.sublist ((hpicked place).trans hemitted)⟩,
    fun receiver next hnext => ?_,
    fun hreleased hworkers actions g' later hrun =>
      silent_of_hasEnded ⟨hreleased, h.gone hreleased, hworkers⟩ hrun⟩
  · -- What the relay took and what it lost make up the ring as far as it has come.
    have hlength := h.relay.accounts.length_eq
    have hnext := h.relay.next_le
    rw [List.drop_zero, List.length_take, Nat.min_eq_left hnext] at hlength
    rw [emittedIn_eq, hlength, List.length_drop]
    omega
  · rcases h.receivers receiver next hnext with ⟨first, hfirst⟩
    exact ⟨⟨first, hfirst⟩, hfirst.sublist, h.numbered.sublist hfirst.sublist⟩

/-- Events are handed out, taken up and received in the order in which they were
    published, each of them once at most, and what the relay does not hand out was
    announced to it as lost or is unread. -/
theorem events_arrive_in_order {settings : Settings} {subscribers : List (String × Nat)}
    {s : Service ι} {actions : List (GatheringAction ι)}
    (hbuild : Service.build settings subscribers = .ok s)
    (hrun : runOf act { service := s } actions = some (g, shown)) : g.Conveyed shown := by
  cases Service.eq_fresh_of_build hbuild
  refine Heard.conveyed ?_
  refine runOf_induction (fun _ g shown => g.Heard shown) (.fresh settings subscribers) ?_ hrun
  intro before u shown a v now _ _ hu hact
  exact hu.step hact

/-- A relay and a receiver that come too late for some events, a subscriber that
    breaks off, and a service that goes with the news of that unread. -/
theorem events_arrive_in_order_past_a_loss :
    let settings : Settings := { Settings.standard with busCapacity := 1 }
    let actions : List (GatheringAction Nat) := [.subscribe, .elsewhere 3,
      .service (.call (.serve (fun _ _ => .ok "api") (some 0))),
      .service (.call (.announceRegistered 0)), .elsewhere 2,
      .service (.call (.attach (fun _ _ => .ok "db") (some 1))),
      .service (.call (.announceRegistered 1)), .service (.relay .take), .service (.relay .take),
      .service (.relay (.pick 0)), .service (.relay (.finish 0 (.panicked .mute))), .receive 0,
      .receive 0, .service (.relay .release), .service (.relay .retire),
      .service (.relay (.close 0))]
    ∃ g shown, runOf act { service := .fresh settings [("loud", 1)] } actions = some (g, shown) ∧
      (publishedBy shown).map Event.seq = [3, 6, 7] ∧
      (toldToRelay (ofService shown)).length = 2 ∧ (receivedBy 0 shown).length = 2 ∧
      g.service.relay.delivery.fanout.hasEnded = true ∧ g.Conveyed shown := by
  intro settings actions
  have hlook : (runOf act { service := .fresh settings [("loud", 1)] } actions).map (fun last =>
      ((publishedBy last.2).map Event.seq, (toldToRelay (ofService last.2)).length,
        (receivedBy 0 last.2).length, last.1.service.relay.delivery.fanout.hasEnded)) =
          some ([3, 6, 7], 2, 2, true) := by
    decide +kernel
  rcases Option.map_eq_some_iff.mp hlook with ⟨⟨g, shown⟩, hrun, hlast⟩
  simp only [Prod.mk.injEq] at hlast
  rcases hlast with ⟨hseq, htold, hreceived, hended⟩
  have hbuild : Service.build settings [("loud", 1)] =
      .ok (.fresh settings [("loud", 1)] : Service Nat) := rfl
  exact ⟨g, shown, hrun, hseq, htold, hreceived, hended, events_arrive_in_order hbuild hrun⟩

end Gathering

end Steward
