import Steward.Proofs.Mailing

/-!
# What Becomes of All Events at All Mailboxes

The books of a whole set of subscribers, from its beginning on.

What a mailbox has accepted and what it has refused is on its books (`Books`), and
these are kept from step to step. Here they are put together with what the set tells
of itself. Each refusal is reported under the name of the subscriber and with its
reason, but that of an event that is such a report, and each subscriber that breaks
off is reported with what it said; nothing else is (`published_of_occurs`). Whatever is
reported goes onto the ring where it comes about, amid what others publish.

A set that was told to close and has nothing left to do has handled all that its
workers have accepted, because a worker ends of itself only when nothing waits. And it
can always come to this: each worker can be done with what it has and take up what
waits, one event after the other (`exists_run_hasEnded`).

## Main definitions

* `publishedAmong`: What goes onto the ring.
* `calledFor`: What has to be published, by what was seen.
* `WorksTo`: What the workers alone can bring about.
* `Delivery.InOrder`: What is so of a set of subscribers at every moment.

## Theorems

* `published_of_occurs`: A step publishes what it calls for.
* `exists_run_hasEnded`: A set that is closing can come to its end.
* `mail_is_accounted_for`: The books of every set are in order at every moment.
-/

namespace Steward

/-- What goes onto the ring, among effects. -/
def publishedAmong (shown : List MailEffect) : List Event :=
  shown.filterMap fun
    | .elsewhere e => some e
    | .own (.published e) => some e
    | .own _ => none

/-- What has to be published for an effect, if the subscribers have these names. A
    refusal is reported, but that of a report of a refusal, and so is a panic. -/
def MailEffect.notice? (names : List String) : MailEffect → Option Notice
  | .elsewhere e => some e.toNotice
  | .own (.refused place e why) =>
    if e.kind = .subscriberOverflow then none
    else names[place]?.map fun name => .overflow name why.reason
  | .own (.handled place _ (.panicked panic)) =>
    names[place]?.map fun name => .panicked name panic.message
  | .own _ => none

/-- What has to be published for effects. -/
def calledFor (names : List String) (shown : List MailEffect) : List Notice :=
  shown.filterMap (MailEffect.notice? names)

/-- The steps that a worker takes. -/
inductive Happening.IsWork : Happening → Prop where
  | pick (place : Nat) : IsWork (.step (.pick place))
  | finish (place : Nat) (how : Handling) : IsWork (.step (.finish place how))
  | close (place : Nat) : IsWork (.step (.close place))

section Among

variable (names : List String) (shown later : List MailEffect) (events : List Event)

theorem publishedAmong_append :
    publishedAmong (shown ++ later) = publishedAmong shown ++ publishedAmong later :=
  List.filterMap_append

theorem calledFor_append : calledFor names (shown ++ later) =
    calledFor names shown ++ calledFor names later :=
  List.filterMap_append

theorem publishedAmong_cons (x : MailEffect) :
    publishedAmong (x :: later) = publishedAmong [x] ++ publishedAmong later :=
  publishedAmong_append [x] later

theorem calledFor_cons (x : MailEffect) :
    calledFor names (x :: later) = (x.notice? names).toList ++ calledFor names later := by
  rw [calledFor, List.filterMap_cons]
  cases x.notice? names <;> rfl

theorem publishedAmong_published :
    publishedAmong ((events.map DeliveryEffect.published).map .own) = events := by
  rw [publishedAmong, List.map_map, List.filterMap_map]
  exact List.filterMap_some

/-- A report calls for no other. -/
theorem calledFor_published :
    calledFor names ((events.map DeliveryEffect.published).map .own) = [] := by
  rw [calledFor, List.map_map, List.filterMap_map, List.filterMap_eq_nil_iff]
  exact fun _ _ => rfl

end Among

namespace Delivery

variable {d d' : Delivery} {place : Nat} {m : Mailbox} {e : Event} {shown : List MailEffect}

/-- The names of the subscribers, in their order. -/
def names (d : Delivery) : List String :=
  d.fanout.boxes.map (·.name)

theorem offers_eq (d : Delivery) (e : Event) :
    d.offers e = d.fanout.boxes.zipIdx.map fun entry => entry.1.answer entry.2 e := rfl

theorem names_getElem? (hbox : d.fanout.boxes[place]? = some m) :
    d.names[place]? = some m.name := by
  rw [names, List.getElem?_map, hbox, Option.map_some]

/-- What a mailbox says is itself no news. -/
theorem publishedAmong_answer (m : Mailbox) (place : Nat) (e : Event) :
    publishedAmong [.own (m.answer place e)] = [] := by
  rw [Mailbox.answer]
  cases m.post e <;> rfl

theorem publishedAmong_offers (d : Delivery) (e : Event) :
    publishedAmong ((d.offers e).map .own) = [] := by
  rw [offers_eq, publishedAmong, List.map_map, List.filterMap_map, List.filterMap_eq_nil_iff]
  rintro ⟨m, p⟩ -
  dsimp only [Function.comp_apply, Mailbox.answer]
  cases m.post e <;> rfl

/-- What a mailbox says calls for the report that is made of it. -/
theorem notice?_answer {names : List String} (hname : names[place]? = some m.name) :
    ((MailEffect.own (m.answer place e)).notice? names).toList = (Fanout.offer e m).2 := by
  rw [Mailbox.answer, Fanout.offer]
  cases m.post e with
  | ok _ => rfl
  | error why =>
      dsimp only [MailEffect.notice?]
      rw [hname]
      split <;> rfl

theorem calledFor_offers (d : Delivery) (e : Event) :
    calledFor d.names ((d.offers e).map .own) = (d.fanout.emit e).2 := by
  have hreport : ∀ entry ∈ d.fanout.boxes.zipIdx,
      ((MailEffect.own (entry.1.answer entry.2 e)).notice? d.names).toList =
        (Fanout.offer e entry.1).2 := by
    rintro ⟨m, p⟩ hmem
    exact notice?_answer (names_getElem? (List.mk_mem_zipIdx_iff_getElem?.mp hmem))
  rw [offers_eq, calledFor, List.map_map, List.filterMap_map, List.filterMap_eq_flatMap_toList,
    Fanout.emit]
  dsimp only [Function.comp_apply]
  rw [List.flatMap_congr hreport, ← List.flatMap_map Prod.fst fun m => (Fanout.offer e m).2,
    List.zipIdx_map_fst]

theorem names_setBox {m' : Mailbox} (hbox : d.fanout.boxes[place]? = some m)
    (hname : m'.name = m.name) : (d.setBox place m').names = d.names := by
  have hset : (d.setBox place m').names = d.names.set place m.name := by
    rw [names, names, setBox, Fanout.update, List.map_set, hname]
  rcases List.getElem?_eq_some_iff.mp (names_getElem? hbox) with ⟨hplace, hold⟩
  rw [hset, ← hold, List.set_getElem_self]

theorem name_offer (e : Event) (m : Mailbox) : (Fanout.offer e m).1.name = m.name := by
  rw [Fanout.offer]
  split
  · rename_i m' hpost
    rw [(Mailbox.eq_of_post hpost).2.2]
  · rfl

/-- The subscribers keep their names. -/
theorem names_of_occurs (h : Occurs d d' shown) : d'.names = d.names := by
  -- Whatever is done to a mailbox leaves it its name.
  cases h with
  | elsewhere n => rfl
  | shutdown hopen => rfl
  | offered hopen hbox =>
      rw [names, fanout_publishAll]
      exact names_setBox hbox (name_offer _ _)
  | emitted hopen =>
      rw [names, fanout_emit, Fanout.boxes_emit, List.map_map]
      exact List.map_congr_left fun m _ => name_offer _ m
  | picked hbox hpick =>
      rcases Mailbox.eq_of_pick hpick with ⟨_, _, _, rfl⟩
      exact names_setBox hbox rfl
  | finished hbox hbusy =>
      rw [names, fanout_publishAll]
      exact names_setBox hbox (Mailbox.name_finish _)
  | closed hbox hclosing hidle hempty =>
      refine names_setBox hbox ?_
      rw [Mailbox.close, hidle, hempty]

/-- What is published in a step goes onto the ring. -/
theorem ring_of_occurs (h : Occurs d d' shown) :
    d'.ring = d.ring.publishAll (publishedAmong shown) := by
  cases h with
  | elsewhere n => rfl
  | shutdown hopen => rfl
  | picked hbox hpick => rfl
  | closed hbox hclosing hidle hempty => rfl
  | @offered m place e hopen hbox =>
      rw [ring_publishAll, List.map_cons, publishedAmong_cons, publishedAmong_answer,
        publishedAmong_published]
      rfl
  | emitted hopen =>
      rw [ring_emit, List.map_append, publishedAmong_append, publishedAmong_offers,
        publishedAmong_published, List.nil_append]
  | finished hbox hbusy =>
      rw [ring_publishAll, List.map_cons, publishedAmong_cons, publishedAmong_published]
      rfl

/-- A step publishes what it calls for, and nothing else. -/
theorem published_of_occurs (h : Occurs d d' shown) :
    (publishedAmong shown).map Event.toNotice = calledFor d.names shown := by
  -- Each step that publishes shows first what it is about, and then what was made of it.
  cases h with
  | elsewhere n => rfl
  | shutdown hopen => rfl
  | picked hbox hpick => rfl
  | closed hbox hclosing hidle hempty => rfl
  | @offered m place e hopen hbox =>
      have hname : d.names[place]? = some m.name := names_getElem? hbox
      rw [List.map_cons, publishedAmong_cons, publishedAmong_answer, publishedAmong_published,
        calledFor_cons, calledFor_published, List.nil_append, List.append_nil,
        notice?_answer hname, map_toNotice_stamped]
  | emitted hopen =>
      rw [List.map_append, publishedAmong_append, publishedAmong_offers, publishedAmong_published,
        calledFor_append, calledFor_offers, calledFor_published, List.nil_append, List.append_nil,
        map_toNotice_stamped]
  | @finished m place e how hbox hbusy =>
      have hname : d.names[place]? = some m.name := names_getElem? hbox
      -- The report on a handling names the subscriber in its place.
      have hreport : ((MailEffect.own (.handled place e how)).notice? d.names).toList =
          (m.finish how).2.toList := by
        cases how with
        | handled => rfl
        | died => rfl
        | panicked panic =>
            rw [MailEffect.notice?, hname]
            rfl
      rw [List.map_cons, publishedAmong_cons, publishedAmong_published, calledFor_cons,
        calledFor_published, hreport, List.append_nil]
      exact map_toNotice_stamped _ _

theorem happen_pick {rest : List Event} (hbox : d.fanout.boxes[place]? = some m)
    (hidle : m.worker = .idle) (hqueue : m.queue = e :: rest) :
    d.happen (.step (.pick place)) =
      some (d.setBox place { m with queue := rest, worker := .busy e },
        [.own (.picked place e)]) := by
  have hpick : m.pick = some (e, { m with queue := rest, worker := .busy e }) := by
    rw [Mailbox.pick, hidle, hqueue]
  simp only [happen, act, pick, hbox, hpick, Option.bind_eq_bind, Option.bind_some, Option.pure_def,
    Option.map_some, List.map_cons, List.map_nil]

theorem happen_finish (hbox : d.fanout.boxes[place]? = some m) (hbusy : m.worker = .busy e) :
    d.happen (.step (.finish place .handled)) =
      some (d.setBox place { m with worker := .idle }, [.own (.handled place e .handled)]) := by
  simp only [happen, act, finish, hbox, hbusy, Option.map_some]
  rfl

theorem happen_close (hclosing : d.fanout.closing = true)
    (hbox : d.fanout.boxes[place]? = some m) (hidle : m.worker = .idle) (hempty : m.queue = []) :
    d.happen (.step (.close place)) =
      some (d.setBox place { m with worker := .ended }, [.own (.ended place)]) := by
  have hclose : m.close = { m with worker := .ended } := by
    rw [Mailbox.close, hidle, hempty]
  simp only [happen, act, close, hbox, hclosing, hidle, hempty, hclose, decide_true,
    List.isEmpty_nil, Bool.and_self, if_true, Option.map_some, List.map_cons, List.map_nil]

/-- By steps of workers alone one set of subscribers becomes another. -/
def WorksTo (d d' : Delivery) : Prop :=
  ∃ actions shown, (∀ a ∈ actions, Happening.IsWork a) ∧ runOf happen d actions = some (d', shown)

theorem WorksTo.refl (d : Delivery) : WorksTo d d :=
  ⟨[], [], fun _ h => absurd h List.not_mem_nil, rfl⟩

theorem WorksTo.cons {u : Delivery} {a : Happening} (ha : a.IsWork)
    (hact : d.happen a = some (u, shown)) (h : WorksTo u d') : WorksTo d d' := by
  rcases h with ⟨actions, later, hwork, hrun⟩
  refine ⟨a :: actions, shown ++ later, ?_, runOf_cons_eq_some.mpr ⟨u, _, _, hact, hrun, rfl⟩⟩
  intro b hb
  rcases List.mem_cons.mp hb with rfl | hb
  · exact ha
  · exact hwork b hb

theorem WorksTo.trans {u : Delivery} (h : WorksTo d u) (h' : WorksTo u d') : WorksTo d d' := by
  rcases h with ⟨actions, shown, hwork, hrun⟩
  rcases h' with ⟨more, later, hwork', hrun'⟩
  refine ⟨actions ++ more, shown ++ later, ?_, runOf_append hrun hrun'⟩
  intro a ha
  rcases List.mem_append.mp ha with ha | ha
  · exact hwork a ha
  · exact hwork' a ha

theorem setBox_setBox (d : Delivery) (place : Nat) (m m' : Mailbox) :
    (d.setBox place m).setBox place m' = d.setBox place m' := by
  simp only [setBox, Fanout.update, List.set_set]

theorem getElem?_setBox (m' : Mailbox) (hbox : d.fanout.boxes[place]? = some m) :
    (d.setBox place m').fanout.boxes[place]? = some m' :=
  List.getElem?_set_self (List.getElem?_eq_some_iff.mp hbox).1

/-- A worker that waits empties its queue, one event after the other, and ends. -/
theorem worksTo_of_idle (hclosing : d.fanout.closing = true)
    (hbox : d.fanout.boxes[place]? = some m) (hidle : m.worker = .idle) :
    ∃ m', m'.worker = .ended ∧ WorksTo d (d.setBox place m') := by
  -- Along the queue, since every event that is taken up and handled makes it shorter.
  induction hqueue : m.queue generalizing d m with
  | nil =>
      exact ⟨_, rfl, .cons (.close place) (happen_close hclosing hbox hidle hqueue) (.refl _)⟩
  | cons e rest ih =>
      have hpicked := getElem?_setBox { m with queue := rest, worker := .busy e } hbox
      have hdone := getElem?_setBox { m with queue := rest, worker := .idle } hpicked
      rcases ih (d := (d.setBox place _).setBox place _) hclosing hdone rfl rfl with ⟨m', hended, hworks⟩
      rw [setBox_setBox, setBox_setBox] at hworks
      exact ⟨m', hended, .cons (.pick place) (happen_pick hbox hidle hqueue)
        (.cons (.finish place .handled) (happen_finish hpicked rfl)
          ((setBox_setBox d place _ _).symm ▸ hworks))⟩

/-- Each worker can come to its end. -/
theorem exists_worksTo (hclosing : d.fanout.closing = true)
    (hbox : d.fanout.boxes[place]? = some m) :
    ∃ m', m'.worker = .ended ∧ WorksTo d (d.setBox place m') := by
  cases hworker : m.worker with
  | idle => exact worksTo_of_idle hclosing hbox hworker
  | busy e =>
      -- First it is done with what it has in its hands.
      have hdone := getElem?_setBox { m with worker := .idle } hbox
      rcases worksTo_of_idle (d := d.setBox place _) hclosing hdone rfl with ⟨m', hended, hworks⟩
      rw [setBox_setBox] at hworks
      exact ⟨m', hended, .cons (.finish place .handled) (happen_finish hbox hworker) hworks⟩
  | ended =>
      rcases List.getElem?_eq_some_iff.mp hbox with ⟨hplace, rfl⟩
      refine ⟨d.fanout.boxes[place], hworker, ?_⟩
      rw [setBox, Fanout.update, List.set_getElem_self]
      exact .refl d

/-- A set that is closing can come to its end, by what its workers do. -/
theorem exists_run_hasEnded (hclosing : d.fanout.closing = true) :
    ∃ d', WorksTo d d' ∧ d'.fanout.hasEnded = true := by
  -- The workers come to their ends one after the other.
  have hended : ∀ k, k ≤ d.fanout.boxes.length → ∃ d', WorksTo d d' ∧
      d'.fanout.closing = true ∧ d'.fanout.boxes.length = d.fanout.boxes.length ∧
      ∀ p m, p < k → d'.fanout.boxes[p]? = some m → m.worker = .ended := by
    -- The induction is on how many of them have ended, from the first place on.
    intro k
    induction k with
    | zero => exact fun _ => ⟨d, .refl d, hclosing, rfl, fun p m hp => absurd hp (Nat.not_lt_zero p)⟩
    | succ k ih =>
        intro hk
        rcases ih (by omega) with ⟨u, hworks, hcloses, hlength, hbefore⟩
        have hplace : k < u.fanout.boxes.length := by omega
        rcases exists_worksTo hcloses (List.getElem?_eq_getElem hplace) with ⟨m', hended, hworks'⟩
        refine ⟨u.setBox k m', hworks.trans hworks', hcloses, ?_, ?_⟩
        · rw [← hlength]
          exact List.length_set
        · -- The worker in place k has just ended, and the others before it are as they were.
          intro p m hp hbox
          by_cases hpk : p = k
          · subst hpk
            rw [getElem?_setBox m' (List.getElem?_eq_getElem hplace), Option.some.injEq] at hbox
            rw [← hbox]
            exact hended
          · have hold : (u.setBox k m').fanout.boxes[p]? = u.fanout.boxes[p]? :=
              List.getElem?_set_ne fun h => hpk h.symm
            exact hbefore p m (by omega) (hold ▸ hbox)
  rcases hended _ (Nat.le_refl _) with ⟨d', hworks, hcloses, hlength, hall⟩
  refine ⟨d', hworks, ?_⟩
  rw [Fanout.hasEnded, hcloses, Bool.true_and, List.all_eq_true]
  intro m hm
  rcases List.mem_iff_getElem?.mp hm with ⟨p, hp⟩
  have hplace : p < d'.fanout.boxes.length := (List.getElem?_eq_some_iff.mp hp).1
  exact decide_eq_true (hall p m (by omega) hp)

/-- What is so of a set of subscribers at every moment, by what was seen of it. -/
structure InOrder (subscribers : List (String × Nat)) (ring : Broadcast Event) (d : Delivery)
    (shown : List MailEffect) : Prop where
  /-- Each subscriber has its mailbox, and the books of it are right. -/
  books : ∀ (place : Nat) (name : String) (capacity : Nat),
    subscribers[place]? = some (name, capacity) →
      ∃ m, d.fanout.boxes[place]? = some m ∧ Books name capacity m (marksAt place shown)
  /-- A worker that lives and has nothing in its hands takes up the next event. -/
  goes_on : ∀ (place : Nat) (e : Event) (rest : List Event), place < subscribers.length →
    ¬IsOver (marksAt place shown) →
    pickedIn (marksAt place shown) = handledIn (marksAt place shown) →
    acceptedIn (marksAt place shown) = pickedIn (marksAt place shown) ++ e :: rest →
      ∃ d', d.happen (.step (.pick place)) = some (d', [.own (.picked place e)])
  /-- Besides what others publish, each refusal of an event and each panic is
      reported once, and nothing else is. -/
  reported : (publishedAmong shown).map Event.toNotice = calledFor (subscribers.map Prod.fst) shown
  on_ring : d.ring = ring.publishAll (publishedAmong shown)
  /-- A set that is closing can come to its end. -/
  can_end : d.fanout.closing = true → ∃ d', WorksTo d d' ∧ d'.fanout.hasEnded = true
  /-- Once it has, all that was accepted is handled, if the worker lived that long. -/
  handled : d.fanout.hasEnded = true → ∀ place, place < subscribers.length →
    (∀ e, .handled e .died ∉ marksAt place shown) →
      acceptedIn (marksAt place shown) = handledIn (marksAt place shown)

namespace InOrder

variable {subscribers : List (String × Nat)} {ring : Broadcast Event} {later : List MailEffect}

/-- What is known of the names and the ring, and of each mailbox, is all there is to
    show. -/
structure Kept (subscribers : List (String × Nat)) (ring : Broadcast Event) (d : Delivery)
    (shown : List MailEffect) : Prop where
  names_eq : d.names = subscribers.map Prod.fst
  books : ∀ (place : Nat) (name : String) (capacity : Nat),
    subscribers[place]? = some (name, capacity) →
      ∃ m, d.fanout.boxes[place]? = some m ∧ Books name capacity m (marksAt place shown)
  reported : (publishedAmong shown).map Event.toNotice = calledFor (subscribers.map Prod.fst) shown
  on_ring : d.ring = ring.publishAll (publishedAmong shown)

theorem Kept.step (h : Kept subscribers ring d shown) (hstep : Occurs d d' later) :
    Kept subscribers ring d' (shown ++ later) where
  names_eq := (names_of_occurs hstep).trans h.names_eq
  books place name capacity hplace := by
    rcases h.books place name capacity hplace with ⟨m, hbox, hbooks⟩
    rcases turn_of_occurs hstep hbox with ⟨m', hbox', hturn⟩
    rw [marksAt_append]
    exact ⟨m', hbox', hbooks.turn hturn⟩
  reported := by
    rw [publishedAmong_append, List.map_append, calledFor_append, h.reported,
      published_of_occurs hstep, h.names_eq]
  on_ring := by
    rw [publishedAmong_append, ring_of_occurs hstep, h.on_ring]
    exact List.foldl_append.symm

theorem Kept.inOrder (h : Kept subscribers ring d shown) : InOrder subscribers ring d shown where
  books := h.books
  goes_on place e rest hplace hlives hdone hwaits := by
    rcases h.books place _ _ (List.getElem?_eq_getElem hplace) with ⟨m, hbox, hbooks⟩
    have halive := hbooks.alive_iff.mpr hlives
    -- What was accepted and not taken up is what waits, as long as the worker lives.
    have hqueue : m.queue = e :: rest :=
      List.append_cancel_left ((hbooks.accepted_eq halive).symm.trans hwaits)
    have hhand : m.worker.inHand = [] := by
      have hpicked := hbooks.picked_eq
      rw [hdone] at hpicked
      exact List.self_eq_append_right.mp hpicked
    -- A worker that has handled all it has taken up has nothing in its hands.
    have hidle : m.worker = .idle := by
      cases hworker : m.worker with
      | idle => rfl
      | busy e' =>
          rw [hworker] at hhand
          cases hhand
      | ended => exact absurd hworker halive
    exact ⟨_, happen_pick hbox hidle hqueue⟩
  reported := h.reported
  on_ring := h.on_ring
  can_end := exists_run_hasEnded
  handled hended place hplace hlived := by
    rcases h.books place _ _ (List.getElem?_eq_getElem hplace) with ⟨m, hbox, hbooks⟩
    rw [Fanout.hasEnded, Bool.and_eq_true, List.all_eq_true] at hended
    have hover := hbooks.over_iff.mp
      (of_decide_eq_true (hended.2 m (List.mem_of_getElem? hbox)))
    -- The worker has ended, and not before its time.
    rcases hover with ⟨e, hdied⟩ | hclosed
    · exact absurd hdied (hlived e)
    · exact (hbooks.emptied hclosed).2

end InOrder

/-- The books of every set of subscribers are in order at every moment, whoever comes
    upon whom: what was accepted is passed on in its order, nothing is refused but for
    want of room or of a worker, each refusal and each panic is reported once, and a
    set that has closed has handled all that its workers could. -/
theorem mail_is_accounted_for (subscribers : List (String × Nat))
    (hcapacity : ∀ s ∈ subscribers, s.2 ≤ Mailbox.capacityLimit) :
    ∃ f, Fanout.make subscribers = .ok f ∧
      ∀ (ring : Broadcast Event) (nextSeq : Nat) (actions : List Happening) (d : Delivery)
        (shown : List MailEffect),
        runOf happen { ring, nextSeq, fanout := f } actions = some (d, shown) →
          d.InOrder subscribers ring shown := by
  refine ⟨.ofSubscribers subscribers, ?_, fun ring nextSeq actions d shown hrun => ?_⟩
  · rw [Fanout.make, if_neg]
    -- A capacity of nought counts as one, and that is not too large either.
    rw [List.any_eq_true]
    rintro ⟨m, hm, hlarge⟩
    rcases List.mem_map.mp hm with ⟨s, hs, rfl⟩
    have hle := hcapacity s hs
    have hlimit : 1 ≤ Mailbox.capacityLimit := by decide
    exact absurd (of_decide_eq_true hlarge) (Nat.not_lt.mpr (Nat.max_le.mpr ⟨hle, hlimit⟩))
  · -- What is kept along a run is stronger than what is said of it at the end.
    refine InOrder.Kept.inOrder (runOf_induction (fun _ => InOrder.Kept subscribers ring) ?_
      (fun _ _ _ _ _ _ _ _ hkept hact => hkept.step (occurs_of_happen hact)) hrun)
    exact {
      names_eq := by
        rw [names, Fanout.ofSubscribers, List.map_map]
        rfl
      books := fun place name capacity hplace => by
        refine ⟨Mailbox.new name capacity, ?_, .new name capacity⟩
        rw [Fanout.ofSubscribers, List.getElem?_map, hplace, Option.map_some]
      reported := rfl
      on_ring := rfl }

/-- Two subscribers. The queue of one has room for nothing, and so for one event: it
    misses the third and is not told that it does, and in the end it has handled the
    others. The other one breaks off and goes on, until its worker ends too early. -/
theorem mail_is_accounted_for_tight_and_loud :
    let started : Event := { kind := .serviceStarting, seq := 0 }
    let stopping : Event := { kind := .serviceStopping, seq := 1 }
    let stopped : Event := { kind := .serviceStopped, seq := 2 }
    let news : Event := { Notice.overflow "tight" "full" with seq := 3 }
    let actions : List Happening := [.step (.emit started), .step (.pick 0),
      .offer 0 stopping, .step (.pick 1), .offer 1 stopping, .step (.emit stopped),
      .elsewhere { kind := .healthChecked }, .step (.emit news),
      .step (.finish 1 (.panicked (.text "boom"))), .step (.pick 1), .step (.finish 1 .died),
      .offer 1 stopped, .step .shutdown, .step (.finish 0 .handled), .step (.pick 0),
      .step (.finish 0 .handled), .step (.close 0)]
    let ring : Broadcast Event := .ofCapacity 2
    ∃ f d shown, Fanout.make [("tight", 0), ("loud", 2)] = .ok f ∧
      runOf happen { ring, nextSeq := 3, fanout := f } actions = some (d, shown) ∧
      marksAt 0 shown = [.accepted started, .picked started, .accepted stopping,
        .refused stopped .full, .refused news .full, .handled started .handled, .picked stopping,
        .handled stopping .handled, .ended] ∧
      (publishedAmong shown).map Event.toNotice = [.overflow "tight" "full",
        { kind := .healthChecked }, .panicked "loud" "boom", .overflow "loud" "closed"] ∧
      d.fanout.hasEnded = true ∧ d.InOrder [("tight", 0), ("loud", 2)] ring shown := by
  intro started stopping stopped news actions ring
  rcases mail_is_accounted_for [("tight", 0), ("loud", 2)] (by decide) with ⟨f, hmake, hall⟩
  have hf : f = .ofSubscribers [("tight", 0), ("loud", 2)] := by
    cases hmake
    rfl
  -- What shows of the run is looked at once, and the books are those of the theorem.
  have hlook : (runOf happen { ring, nextSeq := 3, fanout := f } actions).map (fun last =>
      (marksAt 0 last.2, (publishedAmong last.2).map Event.toNotice, last.1.fanout.hasEnded)) =
        some ([.accepted started, .picked started, .accepted stopping,
          .refused stopped .full, .refused news .full, .handled started .handled,
          .picked stopping, .handled stopping .handled, .ended],
          [.overflow "tight" "full", { kind := .healthChecked }, .panicked "loud" "boom",
            .overflow "loud" "closed"], true) := by
    rw [hf]
    decide +kernel
  rcases Option.map_eq_some_iff.mp hlook with ⟨⟨d, shown⟩, hrun, hlast⟩
  simp only [Prod.mk.injEq] at hlast
  rcases hlast with ⟨hmarks, hpublished, hended⟩
  exact ⟨f, d, shown, hmake, hrun, hmarks, hpublished, hended, hall _ _ _ _ _ hrun⟩

end Delivery

end Steward
