import Steward.Proofs.Closings
import Steward.Proofs.Course
import Steward.Proofs.Ending

/-!
# What a Report Says

That the report on the health of a service says what its participants have
replied, and that there always is one.

A question for the health keeps no list of replies. It adds each one to a tally
when it takes it up, and tasks, tray and tally are all there is of it at any
moment. `Reply` is what an observer writes down when a participant is done: that
it has answered, that it panicked over the answer, or that it panicked when it was
asked for its name. A reply has a code and perhaps an error, whichever way it was
come by, so the tally is one of replies.

`Probing` relates the two along a run. Whoever is done has replied, and what was
taken up makes up the replies together with what is on the tray, up to the order.
At the end all are done and the tray is empty. The largest code and the errors up
to their order do not depend on the order of replies, so the report is the same
for every order in which they come (`Checked`).

## Main definitions

* `Reply`: What a participant replies.
* `System.questioned`, `System.replies`: Who was asked, and what was replied.
* `Probing`: The replies to a question under way.
* `Checked`: The report on all replies, and the event that tells it.

## Theorems

* `Probing.of_ended`, `Probing.of_take`: A reply comes, and is taken up.
* `Probing.checked`: The report on what was taken up is that on all replies.
* `answers_of_run`: What a question has gathered is what was replied.
* `exists_run_reported`: A question can be brought to its end.
* `status_reports`: It says what was replied.
-/

namespace Steward

variable {ι : Type}

/-- What a participant replies to a question for its health. -/
inductive Reply where
  /-- It has told its name, and has answered or panicked. -/
  | answered (name : String) (answer : Attempt Health)
  /-- It panicked when it was asked for its name, and its task died. -/
  | mute (task : Nat) (panic : Panic)

namespace Reply

/-- The code that a reply counts with. Whoever panics cannot be reached. -/
def code : Reply → Nat
  | .answered _ (.ok health) => health.code
  | .answered _ (.error _) | .mute _ _ => Health.unavailableCode

/-- The error that a reply brings, if it brings one. -/
def error? : Reply → Option Cause
  | .answered _ (.ok health) => health.error
  | .answered name (.error panic) => some (.failure (panicFailure name panic))
  | .mute task panic => some (.died task panic)

/-- Whether a participant is well by its reply. -/
def isGood : Reply → Bool
  | .answered _ (.ok health) => health.code < 300 && health.error.isNone
  | .answered _ (.error _) | .mute _ _ => false

/-- A reply as it comes to the one who has asked. -/
def health : Reply → Health
  | .answered name answer => probed name answer
  | .mute task panic => .unavailable (.died task panic)

theorem code_health (r : Reply) : r.health.code = r.code := by
  rcases r with ⟨name, panic | health⟩ | ⟨task, panic⟩ <;> rfl

theorem error_health (r : Reply) : r.health.error = r.error? := by
  rcases r with ⟨name, panic | health⟩ | ⟨task, panic⟩ <;> rfl

theorem isGood_iff (r : Reply) : r.isGood = true ↔ r.code < 300 ∧ r.error? = none := by
  rcases r with ⟨name, panic | health⟩ | ⟨task, panic⟩
  · exact ⟨nofun, nofun⟩
  · rw [isGood, Bool.and_eq_true, decide_eq_true_iff, Option.isNone_iff_eq_none]
    rfl
  · exact ⟨nofun, nofun⟩

end Reply

namespace System

/-- Who is asked in a step. -/
def questionedNow (s : System ι) : Action ι → List ι
  | .enterStatus _ => s.roster.participants
  | _ => []

/-- What is replied in a step of a question. -/
def repliedNow (s : System ι) (call : Nat) (a : Action ι) : List (ι × Reply) :=
  match a, s.statusPhase? call with
  | .runProbe _ place (.error panic), some (.probing tasks _ _) =>
    match tasks[place]? with
    | some task => [(task.who, .mute task.number panic)]
    | none => []
  | .endProbe _ place answer, some (.probing tasks _ _) =>
    match tasks[place]? with
    | some ⟨_, who, .running name⟩ => [(who, .answered name answer)]
    | _ => []
  | _, _ => []

/-- The participants that a question has fixed in a run. -/
def questioned (s : System ι) (call : Nat) (actions : List (Action ι)) : List ι :=
  s.follow (fun s a _ => s.questionedNow a) call actions

/-- The replies to a question in a run, in the order in which they come. -/
def replies (s : System ι) (call : Nat) (actions : List (Action ι)) : List (ι × Reply) :=
  s.follow (fun s a _ => s.repliedNow call a) call actions

end System

/-- The replies to a question under way. -/
structure Probing (who : List ι) (tasks : List (Task ι)) (tray : Tray Health) (tally : Tally)
    (replies : List (ι × Reply)) : Prop where
  who_eq : tasks.map Task.who = who
  /-- Whoever is done has replied. -/
  ended : (replies.map Prod.fst).Perm (endedOf tasks)
  /-- What was replied was taken up or will be. -/
  taken : ∃ taken, tally = Tally.ofAnswers taken ∧
    (taken ++ tray.toList).Perm (replies.map fun r => r.2.health)

/-- A report on all replies, and what was published of it. -/
structure Checked (who : List ι) (replies : List (ι × Reply)) (told : List Notice)
    (report : HealthReport) : Prop where
  /-- Every participant has replied, each as often as it is there. -/
  everyone : (replies.map Prod.fst).Perm who
  /-- The code is the largest one, and 200 at least. -/
  code_eq : report.code = (replies.map fun r => r.2.code).foldl max Health.okCode
  none_iff : report.error = none ↔ ∀ r ∈ replies, r.2.error? = none
  /-- One cause for every reply that brings an error, and nothing besides. -/
  causes : ∀ failure, report.error = some failure → failure.findingList = [] ∧
    failure.causes.Perm (replies.filterMap fun r => r.2.error?)
  healthy_iff : report.isHealthy = true ↔ ∀ r ∈ replies, r.2.isGood = true
  /-- The report is told in one event. -/
  told_eq : told = [{ kind := .healthChecked, reason := report.error.map Failure.text,
                      code := some report.code }]

section Largest

theorem foldl_max_lt_iff {codes : List Nat} {first bound : Nat} :
    codes.foldl max first < bound ↔ first < bound ∧ ∀ code ∈ codes, code < bound := by
  induction codes generalizing first with
  | nil => exact ⟨fun h => ⟨h, nofun⟩, And.left⟩
  | cons code rest ih =>
      rw [List.foldl_cons, ih, Nat.max_lt, and_assoc, List.forall_mem_cons]

theorem le_foldl_max (codes : List Nat) (first : Nat) : first ≤ codes.foldl max first := by
  by_contra hlt
  exact Nat.lt_irrefl first (foldl_max_lt_iff.mp (Nat.not_le.mp hlt)).1

end Largest

/-- A report has an error exactly when one was tallied. -/
theorem Tally.error_eq_none_iff (t : Tally) : t.report.error = none ↔ t.errors = [] := by
  rw [Tally.report, Tally.failure]
  cases t.errors with
  | nil => exact iff_of_true rfl rfl
  | cons first more =>
      refine ⟨fun h => ?_, fun h => ?_⟩ <;> cases h

namespace Probing

variable {who : List ι} {tasks : List (Task ι)} {tray rest : Tray Health} {tally : Tally}
  {replies : List (ι × Reply)} {place number : Nat} {w : ι}

theorem of_newTasks (s : System ι) (who : List ι) :
    Probing who (s.newTasks who) {} {} ([] : List (ι × Reply)) where
  who_eq := System.map_who_newTasks s who
  ended := by
    rw [endedOf_newTasks]
    exact List.Perm.refl []
  taken := ⟨[], rfl, List.Perm.refl []⟩

theorem of_asked {name : String} (h : Probing who tasks tray tally replies)
    (htask : tasks[place]? = some ⟨number, w, .spawned⟩) :
    Probing who (tasks.set place ⟨number, w, .running name⟩) tray tally replies where
  who_eq := (System.map_who_set htask).trans h.who_eq
  ended := by
    rw [(begunOf_set_running name htask).2]
    exact h.ended
  taken := h.taken

/-- A reply comes, and lies last on the tray. -/
theorem of_ended {old : TaskState} (h : Probing who tasks tray tally replies)
    (htask : tasks[place]? = some ⟨number, w, old⟩) (hold : old ≠ .finished) (reply : Reply) :
    Probing who (tasks.set place ⟨number, w, .finished⟩) (tray.add reply.health) tally
      (replies ++ [(w, reply)]) where
  who_eq := (System.map_who_set htask).trans h.who_eq
  ended := by
    rw [List.map_append]
    exact (List.perm_append_singleton w _).trans
      ((h.ended.cons w).trans (endedOf_set_finished htask hold).symm)
  taken := by
    rcases h.taken with ⟨taken, htally, hperm⟩
    refine ⟨taken, htally, ?_⟩
    rw [List.map_append]
    refine ((tray.toList_add reply.health).append_left taken).trans ?_
    exact List.perm_middle.trans
      ((hperm.cons reply.health).trans (List.perm_append_singleton _ _).symm)

/-- A reply is taken up. -/
theorem of_take {health : Health} (h : Probing who tasks tray tally replies)
    (htake : tray.take? = some (health, rest)) :
    Probing who tasks rest (tally.add health) replies where
  who_eq := h.who_eq
  ended := h.ended
  taken := by
    rcases h.taken with ⟨taken, rfl, hperm⟩
    refine ⟨taken ++ [health], ?_, ?_⟩
    · rw [Tally.ofAnswers, Tally.ofAnswers, List.foldl_append]
      rfl
    · rw [Tray.toList_take? htake] at hperm
      rw [List.append_assoc]
      exact hperm

/-- What is put aside, or comes back, is still on the tray. -/
theorem of_perm (h : Probing who tasks tray tally replies)
    (htray : rest.toList.Perm tray.toList) : Probing who tasks rest tally replies where
  who_eq := h.who_eq
  ended := h.ended
  taken := by
    rcases h.taken with ⟨taken, htally, hperm⟩
    exact ⟨taken, htally, (htray.append_left taken).trans hperm⟩

/-- When all have replied and everything was taken up, the report is one on all
    replies. -/
theorem checked (h : Probing who tasks tray tally replies) (htray : tray.isEmpty = true)
    (htasks : ∀ task ∈ tasks, task.state = .finished) :
    Checked who replies [System.healthNotice tally.report] tally.report := by
  rcases h.taken with ⟨taken, rfl, hperm⟩
  rw [Tray.toList_of_isEmpty htray, List.append_nil] at hperm
  -- Neither the largest code nor the errors depend on the order.
  have hcodes : (taken.map (·.code)).Perm (replies.map fun r => r.2.code) := by
    have hmap := hperm.map Health.code
    rw [List.map_map] at hmap
    simp only [Function.comp_def, Reply.code_health] at hmap
    exact hmap
  have herrors : (Tally.ofAnswers taken).errors.Perm (replies.filterMap fun r => r.2.error?) := by
    have hfilter := hperm.filterMap Health.error
    rw [List.filterMap_map] at hfilter
    simp only [Function.comp_def, Reply.error_health] at hfilter
    rw [Tally.ofAnswers_errors, ← List.filterMap_eq_flatMap_toList]
    exact hfilter
  -- So the report can be told from the replies in the order in which they were made.
  have hcode : (Tally.ofAnswers taken).report.code =
      (replies.map fun r => r.2.code).foldl max Health.okCode := by
    have hmax := hcodes.foldl_eq' (fun x _ y _ z => Nat.max_right_comm z x y) Health.okCode
    exact (Tally.ofAnswers_code taken).trans hmax
  have hnone : (Tally.ofAnswers taken).report.error = none ↔
      ∀ r ∈ replies, r.2.error? = none := by
    rw [Tally.error_eq_none_iff, ← List.filterMap_eq_nil_iff]
    exact ⟨fun hnil => List.nil_perm.mp (hnil ▸ herrors),
      fun hnil => List.perm_nil.mp (hnil ▸ herrors)⟩
  refine ⟨?_, hcode, hnone, ?_, ?_, rfl⟩
  · have hended := h.ended
    rw [endedOf_of_finished htasks, h.who_eq] at hended
    exact hended
  · intro failure hfailure
    rw [Tally.report, Tally.failure] at hfailure
    split at hfailure
    · cases hfailure
    · cases hfailure
      exact ⟨rfl, herrors⟩
  · -- It is healthy exactly if the largest code is low and there are no errors, that is if every
    -- reply is good.
    have hge := le_foldl_max (replies.map fun r => r.2.code) Health.okCode
    rw [HealthReport.isHealthy, Bool.and_eq_true, Bool.and_eq_true, decide_eq_true_iff,
      decide_eq_true_iff, Option.isNone_iff_eq_none, hnone, hcode, foldl_max_lt_iff]
    simp only [Reply.isGood_iff]
    constructor
    · rintro ⟨⟨-, -, hlow⟩, hwell⟩ r hr
      exact ⟨hlow _ (List.mem_map_of_mem hr), hwell r hr⟩
    · intro hgood
      refine ⟨⟨hge, by decide, fun code hcode => ?_⟩, fun r hr => (hgood r hr).2⟩
      rcases List.mem_map.mp hcode with ⟨r, hr, rfl⟩
      exact (hgood r hr).1

end Probing

/-- What a question for the health has gathered in a phase. -/
def StatusPhase.Gathers (who : List ι) (replies : List (ι × Reply)) : StatusPhase ι → Prop
  | .entering => who = [] ∧ replies = []
  | .probing tasks tray tally => Probing who tasks tray tally replies

/-- A question for the health by what was asked and replied, and by what it has
    published: it is on its way, or has reported. -/
def Call.Answers (who : List ι) (replies : List (ι × Reply)) (told : List Notice) : Call ι → Prop
  | .checking p => told = [] ∧ p.Gathers who replies
  | .ended o => ∃ report, o = .report report ∧ Checked who replies told report
  | _ => False

/-- What participants do when they are asked for their health, by their places. -/
structure Answering where
  name : Nat → Attempt String
  health : Nat → Attempt Health

/-- Whether what an action brings from participants is what they do. -/
def Answering.Allows (b : Answering) : Action ι → Prop
  | .runProbe _ place answer => answer = b.name place
  | .endProbe _ place answer => answer = b.health place
  | _ => True

namespace System

variable {s t u : System ι} {call : Nat} {a : Action ι} {effects : List (Effect ι)}
  {p q : StatusPhase ι} {who : List ι} {replies : List (ι × Reply)}
  {settings : Settings} {actions : List (Action ι)}

/-- A question that goes on gathers what is replied. -/
theorem StatusMove.gathers (h : StatusMove call p a effects q)
    (hp : s.statusPhase? call = some p) (hgathers : p.Gathers who replies) :
    q.Gathers who (replies ++ s.repliedNow call a) ∧ s.questionedNow a = [] ∧
      publishedIn effects = [] := by
  -- Only a probe that ends adds a reply. All other moves are about the tasks and the tray.
  cases h with
  | ask htask =>
      have hnone : ∀ place name, s.repliedNow call (.runProbe call place (.ok name)) = [] :=
        fun _ _ => by simp only [repliedNow]
      rw [hnone, List.append_nil]
      exact ⟨hgathers.of_asked htask, rfl, rfl⟩
  | @died tasks tray tally place number w panic htask =>
      have hmute : s.repliedNow call (.runProbe call place (.error panic)) =
          [(w, .mute number panic)] := by
        simp only [repliedNow, hp, htask]
      rw [hmute]
      exact ⟨hgathers.of_ended htask nofun (.mute number panic), rfl, rfl⟩
  | @answered tasks tray tally place number w name answer htask =>
      have hanswered : s.repliedNow call (.endProbe call place answer) =
          [(w, .answered name answer)] := by
        simp only [repliedNow, hp, htask]
      rw [hanswered]
      exact ⟨hgathers.of_ended htask nofun (.answered name answer), rfl, rfl⟩
  | take htake =>
      have hnone : s.repliedNow call (.joinProbe call) = [] := by simp only [repliedNow]
      rw [hnone, List.append_nil]
      exact ⟨hgathers.of_take htake, rfl, rfl⟩
  | setAside hrest =>
      have hnone : s.repliedNow call (.setAside call) = [] := by simp only [repliedNow]
      rw [hnone, List.append_nil]
      exact ⟨hgathers.of_perm (Tray.toList_setAside?_perm hrest), rfl, rfl⟩
  | bringBack hrest =>
      have hnone : s.repliedNow call (.bringBack call) = [] := by simp only [repliedNow]
      rw [hnone, List.append_nil]
      exact ⟨hgathers.of_perm (Tray.toList_bringBack?_perm hrest), rfl, rfl⟩

/-- A question that ends has reported what was replied. -/
theorem StatusEnd.reported {o : Outcome} (h : StatusEnd call p a effects o)
    (hgathers : p.Gathers who replies) :
    ∃ report, o = .report report ∧ Checked who replies (publishedIn effects) report ∧
      s.repliedNow call a = [] ∧ s.questionedNow a = [] := by
  cases h with
  | concluded htray htasks =>
      have hnone : s.repliedNow call (.concludeStatus call) = [] := by simp only [repliedNow]
      exact ⟨_, rfl, Probing.checked hgathers htray htasks, hnone, rfl⟩

/-- One more action, and what is seen of it by the one who follows a question. -/
theorem Step.answers (hs : Reachable settings s) (hact : s.act a = some (t, effects))
    {c : Call ι} {told : List Notice} (hc : s.calls[call]? = some c)
    (hanswers : c.Answers who replies told) :
    (a.call? ≠ some call ∧ t.calls[call]? = some c) ∨
    a.call? = some call ∧ ∃ c', t.calls[call]? = some c' ∧
      c'.Answers (who ++ s.questionedNow a) (replies ++ s.repliedNow call a)
        (told ++ publishedIn effects) := by
  have hstep := step_of_act hact
  have hlt := (List.getElem?_eq_some_iff.mp hc).1
  have hset : ∀ c', (s.calls.set call c')[call]? = some c' := fun c' =>
    List.getElem?_set_self hlt
  cases c with
  | registering _ | starting _ | stopping _ => cases hanswers
  | ended o =>
      exact Or.inl ⟨fun hcall => hstep.caller_underway hcall o hc, hstep.ended_stays hs.gated hc⟩
  | checking p =>
      -- The step is somebody else's, or it asks all participants, gathers a reply, or reports.
      rcases hanswers with ⟨rfl, hgathers⟩
      have hp := statusPhase?_eq_some.mpr hc
      cases hstep.statusView hs.gated hp with
      | beside hother hphase => exact Or.inl ⟨hother, statusPhase?_eq_some.mp hphase⟩
      | entered hentering ha ht hquiet =>
          subst hentering ha ht hquiet
          rcases hgathers with ⟨rfl, rfl⟩
          have hnone : s.repliedNow call (.enterStatus call) = [] := by simp only [repliedNow]
          have hsilent : publishedIn (spawnEffects call (s.newTasks s.roster.participants)) = [] :=
            filterMap_spawnEffects (fun _ => rfl) _
          refine Or.inr ⟨rfl, _, hset _, hsilent, ?_⟩
          rw [hnone]
          exact Probing.of_newTasks s s.roster.participants
      | move hmove ht =>
          subst ht
          rcases hmove.gathers hp hgathers with ⟨hmoved, hnobody, hsilent⟩
          refine Or.inr ⟨hmove.plain.1, _, hset _, hsilent, ?_⟩
          rw [hnobody, List.append_nil]
          exact hmoved
      | @ending shown o hend ht heffects =>
          subst ht heffects
          rcases hend.reported (s := s) hgathers with ⟨report, ho, hchecked, hnone, hnobody⟩
          refine Or.inr ⟨hend.plain.1, _, hset _, report, ho, ?_⟩
          -- Nothing was told before the end, so all that is told is told with it.
          have htold : [] ++ publishedIn (shown ++ [.finished call o]) = publishedIn shown :=
            (publishedIn_append shown [.finished call o]).trans (List.append_nil _)
          rw [hnone, hnobody, List.append_nil, List.append_nil, htold]
          exact hchecked

/-- What a question has gathered, and reported in the end, is what was replied. -/
theorem answers_of_run (hs : Reachable settings s) (hphase : s.statusPhase? call = some .entering)
    (hrun : s.run actions = some (u, effects)) :
    ∃ c, u.calls[call]? = some c ∧
      c.Answers (s.questioned call actions) (s.replies call actions) (s.toldBy call actions) := by
  refine run_induction (fun actions u => ∃ c, u.calls[call]? = some c ∧
    c.Answers (s.questioned call actions) (s.replies call actions) (s.toldBy call actions))
      ⟨_, statusPhase?_eq_some.mp hphase, rfl, rfl, rfl⟩ ?_ hrun
  -- Steps of others add nothing to what is followed here, and the call's own add what they show.
  rintro before u shown a v now - hbefore ⟨c, hc, hanswers⟩ hact
  rcases Step.answers (hs.run hbefore) hact hc hanswers with
    ⟨hother, hstays⟩ | ⟨hown, c', hc', hanswers'⟩
  · rw [questioned, System.replies, toldBy, follow_other _ hbefore hact hother,
      follow_other _ hbefore hact hother, follow_other _ hbefore hact hother]
    exact ⟨c, hstays, hanswers⟩
  · rw [questioned, System.replies, toldBy, follow_own _ hbefore hact hown,
      follow_own _ hbefore hact hown, follow_own _ hbefore hact hown]
    exact ⟨c', hc', hanswers'⟩

/-- A question that has fixed whom to ask can take up a reply, take one back, wait
    for a participant, or conclude. -/
theorem exists_action_of_probing {tasks : List (Task ι)} {tray : Tray Health} {tally : Tally}
    (hp : s.statusPhase? call = some (.probing tasks tray tally)) (b : Answering) :
    ∃ a : Action ι, a.call? = some call ∧ b.Allows a ∧ a.givesWay = false ∧
      (s.act a).isSome = true := by
  rcases tray with ⟨ended, aside⟩
  -- First what is on the tray, then what was put aside, then who has not replied.
  cases ended with
  | cons first ended =>
      refine ⟨.joinProbe call, rfl, trivial, rfl, ?_⟩
      simp only [act, System.joinProbe, hp, Tray.take?, Option.map_some, Option.isSome_some]
  | nil =>
  cases aside with
  | cons last aside =>
      refine ⟨.bringBack call, rfl, trivial, rfl, ?_⟩
      simp only [act, System.bringBack, statusPhase?_eq_some.mp hp, Tray.bringBack?,
        Option.map_some, Option.isSome_some]
  | nil =>
  by_cases hall : tasks.all (·.state = .finished) = true
  · refine ⟨.concludeStatus call, rfl, trivial, rfl, ?_⟩
    simp only [act, System.concludeStatus, hp, Tray.isEmpty, List.isEmpty_nil, Bool.and_true,
      hall, if_true, Option.isSome_some]
  · -- Some participant has not replied yet, and it is its turn.
    rw [List.all_eq_true] at hall
    push Not at hall
    rcases hall with ⟨⟨number, w, state⟩, hmem, hstate⟩
    rcases List.getElem?_of_mem hmem with ⟨place, htask⟩
    cases state with
    | spawned =>
        refine ⟨.runProbe call place (b.name place), rfl, rfl, rfl, ?_⟩
        simp only [act, System.runProbe, hp, htask]
        cases b.name place <;> rfl
    | running name =>
        refine ⟨.endProbe call place (b.health place), rfl, rfl, rfl, ?_⟩
        simp only [act, System.endProbe, hp, htask, Option.isSome_some]
    | finished => exact absurd (decide_eq_true rfl) hstate

/-- A question that goes on comes closer to its end, unless it gives way. -/
theorem StatusMove.remaining_lt {tasks : List (Task ι)} {tray : Tray Health} {tally : Tally}
    (h : StatusMove call (.probing tasks tray tally) a effects q) (ha : a.givesWay = false) :
    ∃ tasks' tray' tally', q = .probing tasks' tray' tally' ∧
      remainingOf tasks' + tray'.remaining < remainingOf tasks + tray.remaining := by
  cases h with
  | @ask _ _ _ place number w name htask =>
      have hsum := remainingOf_set htask ⟨number, w, .running name⟩
      simp only [Task.remaining] at hsum
      exact ⟨_, _, _, rfl, by omega⟩
  | @died _ _ _ place number w panic htask =>
      have hsum := remainingOf_set htask ⟨number, w, .finished⟩
      simp only [Task.remaining] at hsum
      refine ⟨_, _, _, rfl, ?_⟩
      simp only [Tray.remaining, Tray.add, List.length_append, List.length_singleton]
      omega
  | @answered _ _ _ place number w name answer htask =>
      -- Of the two steps that a running task stands for, one is left on the tray.
      have hsum := remainingOf_set htask ⟨number, w, .finished⟩
      simp only [Task.remaining] at hsum
      refine ⟨_, _, _, rfl, ?_⟩
      simp only [Tray.remaining, Tray.add, List.length_append, List.length_singleton]
      omega
  | take htake =>
      have hless := Tray.remaining_take htake
      exact ⟨_, _, _, rfl, by omega⟩
  | setAside _ => cases ha
  | bringBack hrest =>
      have hless := Tray.remaining_bringBack hrest
      exact ⟨_, _, _, rfl, by omega⟩

/-- A question that has fixed whom to ask can be brought to its end by its own steps,
    whatever its participants do. -/
theorem exists_run_of_probing (hs : Reachable settings s) {tasks : List (Task ι)}
    {tray : Tray Health} {tally : Tally}
    (hp : s.statusPhase? call = some (.probing tasks tray tally)) (b : Answering) :
    ∃ more t effects o, (∀ a ∈ more, a.call? = some call ∧ b.Allows a) ∧
      s.run more = some (t, effects) ∧ t.calls[call]? = some (.ended o) := by
  -- The induction is on what remains of the tasks and on the tray.
  induction hn : remainingOf tasks + tray.remaining using Nat.strongRecOn
      generalizing s tasks tray tally with
  | ind n ih =>
      have hlt := (List.getElem?_eq_some_iff.mp (statusPhase?_eq_some.mp hp)).1
      rcases exists_action_of_probing hp b with ⟨a, hcaller, hallows, hstays, hsome⟩
      rcases Option.isSome_iff_exists.mp hsome with ⟨⟨t, now⟩, hact⟩
      cases (step_of_act hact).statusView hs.gated hp with
      | beside hother _ => exact absurd hcaller hother
      | entered hentering _ _ _ => cases hentering
      | move hmove ht =>
          rcases hmove.remaining_lt hstays with ⟨tasks', tray', tally', rfl, hless⟩
          have hphase : t.statusPhase? call = some (.probing tasks' tray' tally') := by
            rw [statusPhase?_eq_some, ht]
            exact List.getElem?_set_self hlt
          rw [hn] at hless
          rcases ih _ hless (hs.act hact) hphase rfl with ⟨more, v, later, o, hmore, hrun, hended⟩
          exact ⟨a :: more, v, now ++ later, o, List.forall_mem_cons.mpr ⟨⟨hcaller, hallows⟩, hmore⟩,
            run_cons_eq_some.mpr ⟨t, now, later, hact, hrun, rfl⟩, hended⟩
      | @ending _ o hend ht heffects =>
          refine ⟨[a], t, now, o, List.forall_mem_singleton.mpr ⟨hcaller, hallows⟩, ?_, ?_⟩
          · rw [run_singleton, hact]
          · rw [ht]
            exact List.getElem?_set_self hlt

/-- A question for the health can be brought to its end by its own steps, in
    whatever state the service is and whatever its participants do. -/
theorem exists_run_reported (hs : Reachable settings s) (hp : s.statusPhase? call = some p)
    (b : Answering) : ∃ more t effects o, (∀ a ∈ more, a.call? = some call ∧ b.Allows a) ∧
      s.run more = some (t, effects) ∧ t.calls[call]? = some (.ended o) := by
  cases p with
  | probing tasks tray tally => exact exists_run_of_probing hs hp b
  | entering =>
      -- One step spawns the probes, and from there on it is known.
      have hlt := (List.getElem?_eq_some_iff.mp (statusPhase?_eq_some.mp hp)).1
      have hsome : (s.act (.enterStatus call)).isSome = true := by
        simp only [act, System.enterStatus, hp, Option.isSome_some]
      rcases Option.isSome_iff_exists.mp hsome with ⟨⟨t, now⟩, hact⟩
      cases (step_of_act hact).statusView hs.gated hp with
      | beside hother _ => exact absurd rfl hother
      | move hmove _ => cases hmove
      | ending hend _ _ => cases hend
      | entered _ _ ht _ =>
          have hphase : t.statusPhase? call =
              some (.probing (s.newTasks s.roster.participants) {} {}) := by
            rw [statusPhase?_eq_some, ht]
            exact List.getElem?_set_self hlt
          rcases exists_run_of_probing (hs.act hact) hphase b with
            ⟨more, v, later, o, hmore, hrun, hended⟩
          exact ⟨.enterStatus call :: more, v, now ++ later, o,
            List.forall_mem_cons.mpr ⟨⟨rfl, trivial⟩, hmore⟩,
            run_cons_eq_some.mpr ⟨t, now, later, hact, hrun, rfl⟩, hended⟩

/-- No step of a question for the health changes the roster. -/
theorem roster_of_answers (hs : Reachable settings s) {c : Call ι} {told : List Notice}
    (hc : s.calls[call]? = some c) (hanswers : c.Answers who replies told)
    (hcall : a.call? = some call) (hact : s.act a = some (t, effects)) : t.roster = s.roster := by
  have hstep := step_of_act hact
  cases c with
  | registering _ | starting _ | stopping _ => cases hanswers
  | ended o => exact absurd hc (hstep.caller_underway hcall o)
  | checking p =>
      cases hstep.statusView hs.gated (statusPhase?_eq_some.mpr hc) with
      | beside hother _ => exact absurd hcall hother
      | entered _ _ ht _ => rw [ht]; rfl
      | move _ ht => rw [ht]; rfl
      | ending _ ht _ => rw [ht]; rfl

/-- A question for the health is on its way and has published nothing yet, or it has
    returned a report on what its participants have replied, and has published that.
    As long as it is on its way it can be brought to its end by its own steps,
    whatever its participants do, and it never changes the roster. -/
theorem status_reports {settings : Settings} (hs : Reachable settings s)
    (hphase : s.statusPhase? call = some .entering) (hrun : s.run actions = some (u, effects)) :
    ((∃ report, u.calls[call]? = some (.ended (.report report)) ∧
        Checked (s.questioned call actions) (s.replies call actions) (s.toldBy call actions)
          report) ∨
      (∃ p, u.statusPhase? call = some p) ∧ s.toldBy call actions = [] ∧
        ∀ b : Answering, ∃ more v later o, (∀ a ∈ more, a.call? = some call ∧ b.Allows a) ∧
          u.run more = some (v, later) ∧ v.calls[call]? = some (.ended o)) ∧
    ∀ a t now, a.call? = some call → u.act a = some (t, now) → t.roster = u.roster := by
  have hu : Reachable settings u := hs.run hrun
  rcases answers_of_run hs hphase hrun with ⟨c, hc, hanswers⟩
  refine ⟨?_, fun a t now hcall hact => roster_of_answers hu hc hanswers hcall hact⟩
  cases c with
  | registering _ | starting _ | stopping _ => cases hanswers
  | ended o =>
      rcases hanswers with ⟨report, rfl, hchecked⟩
      exact Or.inl ⟨report, hc, hchecked⟩
  | checking p =>
      have hp := statusPhase?_eq_some.mpr hc
      exact Or.inr ⟨⟨p, hp⟩, hanswers.1, fun b => exists_run_reported hu hp b⟩

/-- One dependency panics when it is asked for its name and one when it is asked for
    its health, and both are reported beside a server that answers. -/
theorem status_reports_two_panics :
    let before : List (Action Nat) := [.serve (fun _ _ => .ok "api") (some 0),
      .attach (fun _ _ => .ok "db") (some 1), .attach (fun _ _ => .ok "cache") (some 2),
      .begin .status]
    let actions : List (Action Nat) := [.enterStatus 3, .runProbe 3 0 (.ok "api"),
      .runProbe 3 1 (.ok "db"), .runProbe 3 2 (.error .mute), .endProbe 3 1 (.error (.text "boom")),
      .endProbe 3 0 (.ok (.ofCode 302)), .joinProbe 3, .joinProbe 3, .joinProbe 3,
      .concludeStatus 3]
    ∃ s u shown effects report, (System.initial Settings.standard).run before = some (s, shown) ∧
      s.statusPhase? 3 = some .entering ∧ s.run actions = some (u, effects) ∧
      u.calls[3]? = some (.ended (.report report)) ∧ report.code = 503 ∧
      Checked [0, 1, 2] [(2, .mute 2 .mute), (1, .answered "db" (.error (.text "boom"))),
        (0, .answered "api" (.ok (.ofCode 302)))] (s.toldBy 3 actions) report := by
  intro before actions
  have hbefore : (System.initial Settings.standard).run before = some (_, _) := rfl
  have hreports := status_reports (Reachable.initial.run hbefore)
    (show System.statusPhase? _ 3 = some .entering from rfl)
    (show System.run _ actions = some (_, _) from rfl)
  rcases hreports.1 with ⟨report, hended, hchecked⟩ | ⟨⟨p, hp⟩, -⟩
  · exact ⟨_, _, _, _, report, hbefore, rfl, rfl, hended, hchecked.code_eq, hchecked⟩
  · cases hp

end System

end Steward
