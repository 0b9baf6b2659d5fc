import Steward.Proofs.Run

/-!
# What the Relay and the Subscribers Can Do

Every step of a service with subscribers, and what it makes of the ring.

A service takes three kinds of step. One of its calls goes on, and the notices
that this shows are published. The relay or a worker moves. Or the service goes.
`Relay.Move` lists the moves one by one, with what each of them finds, changes
and shows, so nothing that follows needs to look at `Relay.act` or at
`Delivery.act` again; `Service.Step` puts them beside the steps of the calls.

Two things can be said of all steps alike, and most of what is known of events
rests on them. Whatever a step publishes goes onto the ring in the order in which
it shows, under the numbers that come next (`Step.ring_eq`). And the relay stays
where it is, or takes the event that comes next, or passes over what it has lost
(`Step.next_cases`).

## Main definitions

* `noticesIn`, `eventsIn`: What is published, without and with numbers.
* `announcedIn`, `reportsIn`: What the calls publish of it, and what the relay and
  the workers do.
* `emittedIn`, `handedTo`: The events that the relay hands out, and those that one
  subscriber gets.
* `Relay.Move`, `Service.Step`: The steps.
* `Service.fresh`: A service that begins.

## Theorems

* `Delivery.ring_publishAll`: What publishing does to the ring.
* `Delivery.eq_of_pick`, `Delivery.eq_of_finish`, `Delivery.eq_of_close`: What a worker
  finds and what it leaves.
* `Relay.move_of_act`, `Service.step_of_act`: Every step is one of these.
* `Step.ring_eq`: What a step publishes goes onto the ring.
* `Step.next_cases`: How far the relay comes in a step.
* `eq_fresh_of_build`: How a service begins.
-/

namespace Steward

variable {ι : Type}

section Observations

/-- What the calls of a service publish, among effects. -/
def announcedIn (effects : List (ServiceEffect ι)) : List Notice :=
  effects.filterMap fun
    | .call (.published n) => some n
    | _ => none

/-- What the relay and the workers publish, among effects: reports on
    subscribers. -/
def reportsIn (effects : List (ServiceEffect ι)) : List Event :=
  effects.filterMap fun
    | .relay (.shown (.published e)) => some e
    | _ => none

/-- Everything that is published, among effects. -/
def noticesIn (effects : List (ServiceEffect ι)) : List Notice :=
  effects.filterMap fun
    | .call (.published n) => some n
    | .relay (.shown (.published e)) => some e.toNotice
    | _ => none

/-- Everything that is published, with the numbers that it gets if it is the first
    of its service. -/
def eventsIn (effects : List (ServiceEffect ι)) : List Event :=
  Notice.stampAll (noticesIn effects) 0

/-- The events that the relay hands to all subscribers, among effects. -/
def emittedIn (effects : List (ServiceEffect ι)) : List Event :=
  effects.filterMap fun
    | .relay (.emitted e) => some e
    | _ => none

/-- The events that the subscriber in a place is handed, among effects. -/
def handedTo (place : Nat) (effects : List (ServiceEffect ι)) : List Event :=
  effects.filterMap fun
    | .relay (.shown (.accepted p e)) => if p = place then some e else none
    | _ => none

variable (effects more : List (ServiceEffect ι))

theorem announcedIn_append :
    announcedIn (effects ++ more) = announcedIn effects ++ announcedIn more :=
  List.filterMap_append

theorem reportsIn_append : reportsIn (effects ++ more) = reportsIn effects ++ reportsIn more :=
  List.filterMap_append

theorem noticesIn_append : noticesIn (effects ++ more) = noticesIn effects ++ noticesIn more :=
  List.filterMap_append

theorem emittedIn_append : emittedIn (effects ++ more) = emittedIn effects ++ emittedIn more :=
  List.filterMap_append

theorem handedTo_append (place : Nat) :
    handedTo place (effects ++ more) = handedTo place effects ++ handedTo place more :=
  List.filterMap_append

theorem length_noticesIn :
    (noticesIn effects).length = (announcedIn effects).length + (reportsIn effects).length := by
  induction effects with
  | nil => rfl
  | cons e rest ih =>
      change (noticesIn ([e] ++ rest)).length = _
      rw [noticesIn_append, List.length_append, ih]
      change _ = (announcedIn ([e] ++ rest)).length + (reportsIn ([e] ++ rest)).length
      rw [announcedIn_append, reportsIn_append, List.length_append, List.length_append]
      -- One effect publishes at most once, and on one of the two sides.
      have hone : (noticesIn [e]).length = (announcedIn [e]).length + (reportsIn [e]).length := by
        rcases e with e | e
        · cases e <;> rfl
        · rcases e with _ | _ | e
          · rfl
          · rfl
          · cases e <;> rfl
      omega

end Observations

namespace Notice

variable (notices more : List Notice) (first : Nat)

theorem stampAll_cons (n : Notice) :
    stampAll (n :: notices) first = n.stamp first :: stampAll notices (first + 1) := by
  simp only [stampAll, List.zipIdx_cons, List.map_cons, Nat.add_zero, List.zipIdx_succ,
    List.map_map]
  congr 2
  funext entry
  simp only [Function.comp_apply, Nat.add_assoc, Nat.add_comm 1]

theorem stampAll_append : stampAll (notices ++ more) first =
    stampAll notices first ++ stampAll more (first + notices.length) := by
  induction notices generalizing first with
  | nil => rfl
  | cons n rest ih =>
      rw [List.cons_append, stampAll_cons, stampAll_cons, ih, List.length_cons, List.cons_append]
      congr 3
      omega

@[simp] theorem length_stampAll : (stampAll notices first).length = notices.length := by
  rw [stampAll, List.length_map, List.length_zipIdx]

theorem map_toNotice_stampAll : (stampAll notices first).map Event.toNotice = notices := by
  rw [stampAll, List.map_map]
  exact List.zipIdx_map_fst 0 notices

/-- An event is numbered by its place. -/
theorem seq_of_getElem?_stampAll {i : Nat} {e : Event}
    (h : (stampAll notices first)[i]? = some e) : e.seq = first + i := by
  rw [stampAll, List.getElem?_map, List.getElem?_zipIdx] at h
  cases hget : notices[i]? with
  | none =>
      rw [hget] at h
      cases h
  | some n =>
      rw [hget] at h
      simp only [Option.map_some, Option.some.injEq] at h
      rw [← h, Nat.zero_add]
      rfl

end Notice

section Numbered

variable {effects : List (ServiceEffect ι)} {e : Event} {i n : Nat}

theorem length_eventsIn (effects : List (ServiceEffect ι)) :
    (eventsIn effects).length = (noticesIn effects).length :=
  Notice.length_stampAll _ _

/-- The events of a run are numbered from nought. -/
theorem seq_of_getElem?_eventsIn (h : (eventsIn effects)[i]? = some e) : e.seq = i := by
  rw [Notice.seq_of_getElem?_stampAll _ _ h, Nat.zero_add]

theorem seq_of_mem_drop_take (h : e ∈ ((eventsIn effects).drop i).take n) :
    i ≤ e.seq ∧ e.seq < i + n := by
  rcases List.getElem?_of_mem h with ⟨k, hk⟩
  rw [List.getElem?_take] at hk
  split at hk
  · rename_i hlt
    rw [List.getElem?_drop] at hk
    rw [seq_of_getElem?_eventsIn hk]
    omega
  · cases hk

end Numbered

namespace Delivery

/-- What is published goes onto the ring in its order, under the numbers that come
    next. -/
theorem ring_publishAll (d : Delivery) (notices : List Notice) :
    (d.publishAll notices).ring = d.ring.publishAll (d.stamped notices) := by
  induction notices generalizing d with
  | nil => rfl
  | cons n rest ih =>
      rw [publishAll_cons, ih, stamped, stamped, Notice.stampAll_cons]
      rfl

theorem map_toNotice_stamped (d : Delivery) (notices : List Notice) :
    (d.stamped notices).map Event.toNotice = notices :=
  Notice.map_toNotice_stampAll notices d.nextSeq

theorem ring_emit (d : Delivery) (e : Event) :
    (d.emit e).ring = d.ring.publishAll (d.stamped (d.fanout.emit e).2) := by
  rw [emit, ring_publishAll]
  rfl

theorem nextSeq_emit (d : Delivery) (e : Event) :
    (d.emit e).nextSeq = d.nextSeq + (d.fanout.emit e).2.length := by
  rw [emit, nextSeq_publishAll]

@[simp] theorem fanout_emit (d : Delivery) (e : Event) :
    (d.emit e).fanout = (d.fanout.emit e).1 := by
  rw [emit, fanout_publishAll]

variable {d after : Delivery} {place : Nat} {e : Event}

theorem eq_of_pick (h : d.pick place = some (e, after)) :
    ∃ m m', d.fanout.boxes[place]? = some m ∧ m.pick = some (e, m') ∧
      after = d.setBox place m' := by
  simp only [pick, Option.bind_eq_bind, Option.bind_eq_some_iff] at h
  rcases h with ⟨m, hbox, ⟨e', m'⟩, hpick, h⟩
  cases h
  exact ⟨m, m', hbox, hpick, rfl⟩

theorem eq_of_finish {how : Handling} (h : d.finish place how = some (e, after)) :
    ∃ m, d.fanout.boxes[place]? = some m ∧ m.worker = .busy e ∧
      after = (d.setBox place (m.finish how).1).publishAll (m.finish how).2.toList := by
  unfold finish at h
  split at h
  · rename_i m hbox
    split at h
    · rename_i e' hbusy
      cases h
      exact ⟨m, hbox, hbusy, rfl⟩
    · cases h
  · cases h

theorem eq_of_close (h : d.close place = some after) :
    ∃ m, d.fanout.boxes[place]? = some m ∧ d.fanout.closing = true ∧ m.worker = .idle ∧
      m.queue = [] ∧ after = d.setBox place m.close := by
  unfold close at h
  split at h
  · rename_i m hbox
    split at h
    · rename_i hcond
      cases h
      simp only [Bool.and_eq_true, decide_eq_true_eq, List.isEmpty_iff] at hcond
      exact ⟨m, hbox, hcond.1.1, hcond.1.2, hcond.2, rfl⟩
    · cases h
  · cases h

end Delivery

namespace Relay

/-- The moves of a relay and of the workers behind it. -/
inductive Move (r : Relay) : RelayAction → Relay → List RelayEffect → Prop where
  | took {e : Event} {next : Nat} (hlistens : r.listening = true)
      (hnext : r.delivery.ring.receive r.next = (some (.item e), next)) :
    Move r .take { r with delivery := r.delivery.emit e, next }
      (.emitted e :: ((r.delivery.offers e).map .shown ++
        (r.delivery.stamped (r.delivery.fanout.emit e).2).map fun e => .shown (.published e)))
  | missed {lost next : Nat} (hlistens : r.listening = true)
      (hnext : r.delivery.ring.receive r.next = (some (.lagged lost), next)) :
    Move r .take { r with next } [.lost lost]
  | picked {place : Nat} {m m' : Mailbox} {e : Event}
      (hbox : r.delivery.fanout.boxes[place]? = some m) (hpick : m.pick = some (e, m')) :
    Move r (.pick place) { r with delivery := r.delivery.setBox place m' }
      [.shown (.picked place e)]
  | finished {place : Nat} {m : Mailbox} {e : Event} {how : Handling}
      (hbox : r.delivery.fanout.boxes[place]? = some m) (hbusy : m.worker = .busy e) :
    Move r (.finish place how)
      { r with delivery :=
          (r.delivery.setBox place (m.finish how).1).publishAll (m.finish how).2.toList }
      (.shown (.handled place e how) ::
        (r.delivery.stamped (m.finish how).2.toList).map fun e => .shown (.published e))
  | retired (hlistens : r.listening = true) (hgone : r.released = true) :
    Move r .retire
      { r with delivery := { r.delivery with fanout := r.delivery.fanout.shutdown } } []
  | closed {place : Nat} {m : Mailbox} (hbox : r.delivery.fanout.boxes[place]? = some m)
      (hclosing : r.delivery.fanout.closing = true) (hidle : m.worker = .idle)
      (hempty : m.queue = []) :
    Move r (.close place) { r with delivery := r.delivery.setBox place m.close }
      [.shown (.ended place)]

variable {r t : Relay} {effects : List RelayEffect}

theorem move_of_take (h : r.act .take = some (t, effects)) : Move r .take t effects := by
  rw [act, Option.bind_eq_some_iff] at h
  rcases h with ⟨⟨got, after⟩, htake, h⟩
  unfold take at htake
  split at htake
  · rename_i hlistens
    -- Whoever listens was not told to close.
    have hopen : r.delivery.fanout.closing = false := by
      rw [listening, Bool.and_eq_true, Bool.not_eq_true'] at hlistens
      exact hlistens.2
    split at htake
    · rename_i e next hnext
      cases htake
      simp only [Delivery.act, hopen, Bool.false_eq_true, if_false, Option.map_some,
        Option.some.injEq, List.map_append, List.map_map] at h
      cases h
      exact .took hlistens hnext
    · rename_i next hitem hnext
      cases htake
      -- A ring tells of nothing but items and losses.
      cases got with
      | item e => exact (hitem e rfl).elim
      | lagged lost => cases h; exact .missed hlistens hnext
      | closed =>
          unfold Broadcast.receive at hnext
          split at hnext
          · cases hnext
          · split at hnext <;> cases hnext
    · cases htake
  · cases htake

theorem move_of_pick {place : Nat} (h : r.act (.pick place) = some (t, effects)) :
    Move r (.pick place) t effects := by
  simp only [act, work, Delivery.act, Option.map_map, Option.map_eq_some_iff] at h
  rcases h with ⟨⟨e, d⟩, htaken, h⟩
  cases h
  rcases Delivery.eq_of_pick htaken with ⟨m, m', hbox, hpick, rfl⟩
  exact .picked hbox hpick

theorem move_of_finish {place : Nat} {how : Handling}
    (h : r.act (.finish place how) = some (t, effects)) : Move r (.finish place how) t effects := by
  simp only [act, work, Delivery.act, Option.map_map, Option.map_eq_some_iff] at h
  rcases h with ⟨⟨e, d⟩, hfinish, h⟩
  rcases Delivery.eq_of_finish hfinish with ⟨m, hbox, hbusy, rfl⟩
  simp only [Function.comp_apply, hbox, Prod.mk.injEq] at h
  rcases h with ⟨rfl, rfl⟩
  rw [List.map_cons, List.map_map]
  exact Move.finished hbox hbusy

theorem move_of_close {place : Nat} (h : r.act (.close place) = some (t, effects)) :
    Move r (.close place) t effects := by
  simp only [act, work, Delivery.act, Option.map_map, Option.map_eq_some_iff] at h
  rcases h with ⟨d, hclose, h⟩
  cases h
  rcases Delivery.eq_of_close hclose with ⟨m, hbox, hclosing, hidle, hempty, rfl⟩
  exact .closed hbox hclosing hidle hempty

/-- Every step of a relay is a move, but that the service publishes or goes. -/
theorem move_of_act {a : RelayAction} (hpublish : ∀ n, a ≠ .publish n) (hrelease : a ≠ .release)
    (h : r.act a = some (t, effects)) : Move r a t effects := by
  cases a with
  | publish n => exact absurd rfl (hpublish n)
  | take => exact move_of_take h
  | pick place => exact move_of_pick h
  | finish place how => exact move_of_finish h
  | release => exact absurd rfl hrelease
  | retire =>
      -- The relay retires once the service is gone.
      simp only [act, retire, Option.map_eq_some_iff] at h
      rcases h with ⟨after, hretire, h⟩
      cases h
      split at hretire
      · rename_i hcond
        cases hretire
        rw [Bool.and_eq_true] at hcond
        exact .retired hcond.1 hcond.2
      · cases hretire
  | close place => exact move_of_close h

end Relay

namespace Service

/-- The steps of a service with subscribers. -/
inductive Step (s : Service ι) :
    ServiceAction ι → Service ι → List (ServiceEffect ι) → Prop where
  | called {a : Action ι} {system : System ι} {shown : List (Effect ι)}
      (hact : s.system.act a = some (system, shown)) :
    Step s (.call a) ({ s with system }.publishAll (publishedIn shown)) (shown.map .call)
  | moved {a : RelayAction} {relay : Relay} {shown : List RelayEffect}
      (h : s.relay.Move a relay shown) :
    Step s (.relay a) { s with relay } (shown.map .relay)
  | gone (h : s.relay.released = false) :
    Step s (.relay .release) { s with relay := s.relay.release } []

variable {s t : Service ι} {a : ServiceAction ι} {effects : List (ServiceEffect ι)}

theorem step_of_moved {a : RelayAction} (hpublish : ∀ n, a ≠ .publish n) (hrelease : a ≠ .release)
    (h : (s.relay.act a).map (fun (relay, effects) => ({ s with relay }, effects.map .relay)) =
      some (t, effects)) : Step s (.relay a) t effects := by
  rw [Option.map_eq_some_iff] at h
  rcases h with ⟨⟨relay, shown⟩, hact, h⟩
  cases h
  exact .moved (Relay.move_of_act hpublish hrelease hact)

/-- Every step of a service is one of these. -/
theorem step_of_act (h : s.act a = some (t, effects)) : Step s a t effects := by
  cases a with
  | call a =>
      simp only [act] at h
      split at h
      · cases h
      · rw [Option.map_eq_some_iff] at h
        rcases h with ⟨⟨system, shown⟩, hact, h⟩
        cases h
        -- The call system takes the step, and what it publishes goes to the ring.
        exact .called hact
  | relay a =>
      cases a with
      | publish n => cases h
      | release =>
          simp only [act] at h
          split at h
          · rename_i hcond
            cases h
            rw [Bool.and_eq_true, Bool.not_eq_true'] at hcond
            exact .gone hcond.2
          · cases h
      | take | pick _ | finish _ _ | retire | close _ =>
          refine step_of_moved (fun n heq => ?_) (fun heq => ?_) h <;> cases heq

theorem delivery_publishAll (s : Service ι) (notices : List Notice) :
    (s.publishAll notices).relay =
      { s.relay with delivery := s.relay.delivery.publishAll notices } := by
  have hfold : ∀ r : Relay, notices.foldl Relay.publish r =
      { r with delivery := r.delivery.publishAll notices } := by
    induction notices with
    | nil => exact fun r => rfl
    | cons n rest ih =>
        intro r
        rw [List.foldl_cons, ih]
        rfl
  exact hfold s.relay

section Shown

variable (d : Delivery) (notices : List Notice) (e : Event)

theorem noticesIn_call (shown : List (Effect ι)) :
    noticesIn (shown.map ServiceEffect.call) = publishedIn shown := by
  rw [noticesIn, List.filterMap_map, publishedIn]
  congr 1
  funext e
  cases e <;> rfl

theorem emittedIn_call (shown : List (Effect ι)) :
    emittedIn (shown.map ServiceEffect.call) = [] := by
  rw [emittedIn, List.filterMap_map, List.filterMap_eq_nil_iff]
  intro e _
  cases e <;> rfl

theorem noticesIn_published (events : List Event) :
    noticesIn (events.map fun e => (.relay (.shown (.published e)) : ServiceEffect ι)) =
      events.map Event.toNotice := by
  rw [noticesIn, List.filterMap_map, ← List.filterMap_eq_map]
  rfl

theorem emittedIn_published (events : List Event) :
    emittedIn (events.map fun e => (.relay (.shown (.published e)) : ServiceEffect ι)) = [] := by
  rw [emittedIn, List.filterMap_map, List.filterMap_eq_nil_iff]
  exact fun _ _ => rfl

/-- What a mailbox does with an event publishes nothing by itself. -/
theorem noticesIn_offers :
    noticesIn ((d.offers e).map fun shown => (.relay (.shown shown) : ServiceEffect ι)) = [] := by
  rw [noticesIn, List.filterMap_map, List.filterMap_eq_nil_iff]
  intro shown hshown
  rcases List.mem_map.mp hshown with ⟨⟨m, place⟩, -, rfl⟩
  dsimp only [Function.comp_apply]
  cases m.post e <;> rfl

theorem emittedIn_offers :
    emittedIn ((d.offers e).map fun shown => (.relay (.shown shown) : ServiceEffect ι)) = [] := by
  rw [emittedIn, List.filterMap_map, List.filterMap_eq_nil_iff]
  exact fun _ _ => rfl

/-- What shows when the relay hands out an event: the event, what becomes of it, and
    the reports on that. -/
theorem shown_of_took (ι : Type) (events : List Event) :
    (RelayEffect.emitted e :: ((d.offers e).map .shown ++
      events.map fun e => .shown (.published e))).map (.relay : RelayEffect → ServiceEffect ι) =
    [.relay (.emitted e)] ++ ((d.offers e).map (fun shown => .relay (.shown shown)) ++
      events.map fun e => .relay (.shown (.published e))) := by
  simp only [List.map_cons, List.map_append, List.map_map, List.cons_append, List.nil_append]
  rfl

/-- What shows when a worker is done with an event. -/
theorem shown_of_finished (ι : Type) (place : Nat) (how : Handling) (events : List Event) :
    (RelayEffect.shown (.handled place e how) ::
      events.map fun e => .shown (.published e)).map (.relay : RelayEffect → ServiceEffect ι) =
    [.relay (.shown (.handled place e how))] ++
      events.map fun e => .relay (.shown (.published e)) := by
  rw [List.map_cons, List.map_map]
  rfl

/-- Of handing out an event the refusals are published. -/
theorem noticesIn_took : noticesIn ((RelayEffect.emitted e :: ((d.offers e).map .shown ++
    (d.stamped notices).map fun e => .shown (.published e))).map
      (.relay : RelayEffect → ServiceEffect ι)) = notices := by
  rw [shown_of_took, noticesIn_append, noticesIn_append, noticesIn_offers, noticesIn_published,
    Delivery.map_toNotice_stamped]
  rfl

/-- Of the end of a handling its report is published. -/
theorem noticesIn_finished (place : Nat) (how : Handling) :
    noticesIn ((RelayEffect.shown (.handled place e how) ::
      (d.stamped notices).map fun e => .shown (.published e)).map
        (.relay : RelayEffect → ServiceEffect ι)) = notices := by
  rw [shown_of_finished, noticesIn_append, noticesIn_published, Delivery.map_toNotice_stamped]
  rfl

/-- No call publishes in what the relay and the workers do. -/
theorem announcedIn_relay (shown : List RelayEffect) :
    announcedIn (shown.map (.relay : RelayEffect → ServiceEffect ι)) = [] := by
  rw [announcedIn, List.filterMap_map, List.filterMap_eq_nil_iff]
  exact fun _ _ => rfl

theorem reportsIn_call (shown : List (Effect ι)) :
    reportsIn (shown.map ServiceEffect.call) = [] := by
  rw [reportsIn, List.filterMap_map, List.filterMap_eq_nil_iff]
  exact fun _ _ => rfl

end Shown

/-- Whatever a step publishes goes onto the ring, in the order in which it shows and
    under the numbers that come next. -/
theorem Step.ring_eq (h : Step s a t effects) :
    t.relay.delivery.ring =
      s.relay.delivery.ring.publishAll (s.relay.delivery.stamped (noticesIn effects)) ∧
    t.relay.delivery.nextSeq = s.relay.delivery.nextSeq + (noticesIn effects).length := by
  cases h with
  | called hact =>
      rw [delivery_publishAll, noticesIn_call]
      exact ⟨Delivery.ring_publishAll _ _, Delivery.nextSeq_publishAll _ _⟩
  | gone hgone => exact ⟨rfl, rfl⟩
  | moved hmove =>
      cases hmove with
      | took hlistens hnext =>
          -- Refusals and panics are reported into the same ring.
          rw [noticesIn_took]
          exact ⟨Delivery.ring_emit _ _, Delivery.nextSeq_emit _ _⟩
      | finished hbox hbusy =>
          rw [noticesIn_finished]
          exact ⟨Delivery.ring_publishAll _ _, Delivery.nextSeq_publishAll _ _⟩
      | missed _ _ | picked _ _ | retired _ _ | closed _ _ _ _ => exact ⟨rfl, rfl⟩

/-- In a step the relay stays where it is, or takes the event that comes next and
    hands it out, or passes over what it has lost. -/
theorem Step.next_cases (h : Step s a t effects) :
    (t.relay.next = s.relay.next ∧ emittedIn effects = []) ∨
    (∃ e, s.relay.delivery.ring.receive s.relay.next = (some (.item e), t.relay.next) ∧
      emittedIn effects = [e]) ∨
    ∃ lost, s.relay.delivery.ring.receive s.relay.next = (some (.lagged lost), t.relay.next) ∧
      emittedIn effects = [] := by
  cases h with
  | called hact => exact Or.inl ⟨by rw [delivery_publishAll], emittedIn_call _⟩
  | gone hgone => exact Or.inl ⟨rfl, rfl⟩
  | moved hmove =>
      cases hmove with
      | took hlistens hnext =>
          -- Of the own steps of the relay one emits, and one goes past what was lost.
          refine Or.inr (Or.inl ⟨_, hnext, ?_⟩)
          rw [shown_of_took, emittedIn_append, emittedIn_append, emittedIn_offers,
            emittedIn_published]
          rfl
      | missed hlistens hnext => exact Or.inr (Or.inr ⟨_, hnext, rfl⟩)
      | finished hbox hbusy =>
          refine Or.inl ⟨rfl, ?_⟩
          rw [shown_of_finished, emittedIn_append, emittedIn_published]
          rfl
      | picked _ _ | retired _ _ | closed _ _ _ _ => exact Or.inl ⟨rfl, rfl⟩

/-- A service that begins, with these subscribers. -/
def fresh (settings : Settings) (subscribers : List (String × Nat)) : Service ι where
  system := .initial settings
  relay :=
    { delivery :=
        { ring := .ofCapacity settings.usedCapacity.toNat, fanout := .ofSubscribers subscribers }
      present := !subscribers.isEmpty }

/-- A service that is built begins like this. -/
theorem eq_fresh_of_build {settings : Settings} {subscribers : List (String × Nat)}
    (h : Service.build settings subscribers = .ok s) : s = fresh settings subscribers := by
  unfold build Relay.ofSubscribers Broadcast.make Fanout.make at h
  split at h
  · cases h
  · split at h
    · cases h
    · dsimp only [bind, Except.bind] at h
      split at h
      · cases h
      · rename_i fanout hfanout
        split at hfanout
        · cases hfanout
        · cases hfanout
          cases h
          rfl

end Service

end Steward
