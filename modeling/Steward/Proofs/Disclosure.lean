import Steward.Proofs.Answers

/-!
# What a Health Body Gives Away

The body of a report on the health of a service is made for the outside, and says
nothing of what is inside.

Whatever a participant replies goes into the report it is asked for: the text of an
error, findings, what it panicked with, its name. All of this ends up among the
causes of one failure, and a body leaves the causes out. What remains of the replies
is the largest code and whether there was an error at all, and `HealthReport.plainJson`
is the body made of these two. So the bodies of two reports are the same, letter for
letter, as soon as these two are, whoever was asked and whatever they said.

That a failure in a report has the one message and no findings is not in the nature
of reports. It holds of those that a question for the health comes to, because it
makes them from a tally and from nothing else (`Reports.exists_tally`).

## Main definitions

* `HealthReport.plainJson`: The body by the code and whether there is an error.
* `System.Reports`: A run in which a question is asked and reported on.

## Theorems

* `Tally.json_report`: A report on a tally has a plain body.
* `Reports.exists_tally`: A question reports on a tally.
* `Reports.checked`: It reports on what was replied.
* `Reports.json_eq`: Its body is the plain one for what was replied.
* `bodies_agree`: Two bodies agree when codes and presence of errors do.
-/

namespace Steward

variable {ι : Type}

/-- What is told of a service that is not well. -/
def HealthReport.complaint : String :=
  "Service is not in a healthy state"

/-- The body of a report with a code, and with an error or not, of which nothing else
    is told. -/
def HealthReport.plainJson (code : Nat) (ill : Bool) : List Char :=
  Json.object (Json.member "status" (Nat.toDigits 10 code) ::
    if ill then
      [Json.member "error" (Json.object
        [Json.member "message" (Json.literal HealthReport.complaint)])]
    else [])

/-- A report on a tally has a plain body, whatever was tallied. -/
theorem Tally.json_report (t : Tally) :
    t.report.json = HealthReport.plainJson t.code (!t.errors.isEmpty) := by
  rw [HealthReport.json, HealthReport.plainJson, Tally.report, Tally.failure]
  cases t.errors <;> rfl

/-- A question for the health is on its way, or it has reported on a tally. -/
def Call.IsTallied : Call ι → Prop
  | .checking _ => True
  | .ended o => ∃ tally : Tally, o = .report tally.report
  | _ => False

namespace System

/-- A run in which a question for the health is asked and reported on. -/
structure Reports (s : System ι) (call : Nat) (actions : List (Action ι))
    (report : HealthReport) : Prop where
  reachable : ∃ settings, Reachable settings s
  begins : s.statusPhase? call = some .entering
  ends : ∃ u effects, s.run actions = some (u, effects) ∧
    u.calls[call]? = some (.ended (.report report))

variable {s t : System ι} {call : Nat} {a : Action ι} {effects : List (Effect ι)}
  {actions : List (Action ι)} {report : HealthReport} {settings : Settings}

/-- A question that has reported on a tally stays so, and one that ends does. -/
theorem Step.isTallied (hs : Reachable settings s) (hact : s.act a = some (t, effects))
    {c : Call ι} (hc : s.calls[call]? = some c) (htallied : c.IsTallied) :
    ∃ c', t.calls[call]? = some c' ∧ c'.IsTallied := by
  have hstep := step_of_act hact
  have hset : ∀ c', (s.calls.set call c')[call]? = some c' := fun c' =>
    List.getElem?_set_self (List.getElem?_eq_some_iff.mp hc).1
  cases c with
  | registering _ | starting _ | stopping _ => cases htallied
  | ended o => exact ⟨_, hstep.ended_stays hs.gated hc, htallied⟩
  | checking p =>
      -- A question stays one until it is concluded, and then it has the report of a tally.
      cases hstep.statusView hs.gated (statusPhase?_eq_some.mpr hc) with
      | @beside hother hphase =>
          exact ⟨.checking p, statusPhase?_eq_some.mp hphase, trivial⟩
      | entered _ _ ht _ =>
          subst ht
          exact ⟨.checking _, hset _, trivial⟩
      | move _ ht =>
          subst ht
          exact ⟨.checking _, hset _, trivial⟩
      | ending hend ht _ =>
          subst ht
          refine ⟨.ended _, hset _, ?_⟩
          cases hend with
          | concluded _ _ => exact ⟨_, rfl⟩

/-- A question for the health reports on a tally. -/
theorem Reports.exists_tally (h : Reports s call actions report) :
    ∃ tally : Tally, report = tally.report := by
  rcases h.reachable with ⟨settings, hs⟩
  rcases h.ends with ⟨u, effects, hrun, hended⟩
  have htallied : ∃ c, u.calls[call]? = some c ∧ c.IsTallied := by
    refine run_induction (fun _ u => ∃ c, u.calls[call]? = some c ∧ c.IsTallied)
      ⟨_, statusPhase?_eq_some.mp h.begins, trivial⟩ ?_ hrun
    rintro before u shown a v now - hbefore ⟨c, hc, htallied⟩ hact
    exact Step.isTallied (hs.run hbefore) hact hc htallied
  rcases htallied with ⟨c, hc, htallied⟩
  rw [hended, Option.some.injEq] at hc
  subst hc
  rcases htallied with ⟨tally, hreport⟩
  exact ⟨tally, Outcome.report.inj hreport⟩

/-- A question that has reported has gathered what was replied. -/
theorem Reports.checked (h : Reports s call actions report) :
    Checked (s.questioned call actions) (s.replies call actions) (s.toldBy call actions)
      report := by
  rcases h.reachable with ⟨settings, hs⟩
  rcases h.ends with ⟨u, effects, hrun, hended⟩
  rcases answers_of_run hs h.begins hrun with ⟨c, hc, hanswers⟩
  rw [hended, Option.some.injEq] at hc
  subst hc
  rcases hanswers with ⟨report, hreport, hchecked⟩
  cases hreport
  exact hchecked

/-- The body of a report is the plain one, for the largest code replied and for whether
    an error was. -/
theorem Reports.json_eq (h : Reports s call actions report) :
    report.json = HealthReport.plainJson
      (((s.replies call actions).map fun r => r.2.code).foldl max Health.okCode)
      ((s.replies call actions).any fun r => r.2.error?.isSome) := by
  rcases h.exists_tally with ⟨tally, rfl⟩
  have hchecked := h.checked
  have hill : (!tally.errors.isEmpty) =
      (s.replies call actions).any fun r => r.2.error?.isSome := by
    rw [Bool.eq_iff_iff, Bool.not_eq_true', ← Bool.not_eq_true, List.isEmpty_iff,
      ← Tally.error_eq_none_iff, hchecked.none_iff, List.any_eq_true]
    simp only [Option.isSome_iff_ne_none, not_forall, exists_prop]
  rw [Tally.json_report, ← hill]
  exact congrArg (HealthReport.plainJson · _) hchecked.code_eq

end System

/-- The bodies of two reports are the same, letter for letter, if the largest codes that
    were replied are, and if an error was replied in both cases or in neither. Nothing
    else of the two services and their participants matters. -/
theorem bodies_agree {ι κ : Type} {s : System ι} {call : Nat} {actions : List (Action ι)}
    {report : HealthReport} (h : s.Reports call actions report)
    {s' : System κ} {call' : Nat} {actions' : List (Action κ)} {report' : HealthReport}
    (h' : s'.Reports call' actions' report')
    (hcode : ((s.replies call actions).map fun r => r.2.code).foldl max Health.okCode =
      ((s'.replies call' actions').map fun r => r.2.code).foldl max Health.okCode)
    (herror : (∃ r ∈ s.replies call actions, r.2.error? ≠ none) ↔
      ∃ r ∈ s'.replies call' actions', r.2.error? ≠ none) :
    report.body = report'.body := by
  have hill : ((s.replies call actions).any fun r => r.2.error?.isSome) =
      (s'.replies call' actions').any fun r => r.2.error?.isSome := by
    rw [Bool.eq_iff_iff, List.any_eq_true, List.any_eq_true]
    simpa only [Option.isSome_iff_ne_none] using herror
  rw [HealthReport.body, HealthReport.body, h.json_eq, h'.json_eq, hcode, hill]

/-- Of one service the server has a secret to tell and a dependency panics, in the other
    a dependency cannot even tell its name. Outside the same is heard of both. -/
theorem bodies_agree_on_secrets :
    let before : List (Action Nat) := [.serve (fun _ _ => .ok "api") (some 0),
      .attach (fun _ _ => .ok "db") (some 1), .begin .status]
    let actions : List (Action Nat) := [.enterStatus 2, .runProbe 2 0 (.ok "api"),
      .runProbe 2 1 (.ok "db"), .endProbe 2 1 (.error (.text "no route to 10.0.0.7")),
      .endProbe 2 0 (.ok ((Health.ofCode 200).withError (.plain "password is hunter2"))),
      .joinProbe 2, .joinProbe 2, .concludeStatus 2]
    let before' : List (Action Bool) := [.attach (fun _ _ => .ok "cache") (some true),
      .begin .status]
    let actions' : List (Action Bool) := [.enterStatus 1, .runProbe 1 0 (.error (.text "who am I")),
      .joinProbe 1, .concludeStatus 1]
    ∃ s shown s' shown' report report',
      (System.initial Settings.standard).run before = some (s, shown) ∧
      (System.initial Settings.standard).run before' = some (s', shown') ∧
      s.Reports 2 actions report ∧ s'.Reports 1 actions' report' ∧
      report.error.map Failure.text ≠ report'.error.map Failure.text ∧
      report.body = report'.body := by
  intro before actions before' actions'
  have hbefore : (System.initial Settings.standard).run before = some (_, _) := rfl
  have hbefore' : (System.initial Settings.standard).run before' = some (_, _) := rfl
  -- Both services have reached their reports, each with secrets of its own.
  have hreports : System.Reports _ 2 actions _ :=
    ⟨⟨_, Reachable.initial.run hbefore⟩, rfl, _, _, rfl, rfl⟩
  have hreports' : System.Reports _ 1 actions' _ :=
    ⟨⟨_, Reachable.initial.run hbefore'⟩, rfl, _, _, rfl, rfl⟩
  refine ⟨_, _, _, _, _, _, hbefore, hbefore', hreports, hreports', ?_,
    bodies_agree hreports hreports' rfl ?_⟩
  · decide +kernel
  · -- The first replies that come bring an error in either run.
    refine iff_of_true ⟨(1, .answered "db" (.error (.text "no route to 10.0.0.7"))), ?_, nofun⟩
      ⟨(true, .mute 0 (.text "who am I")), ?_, nofun⟩
    · exact List.mem_cons_self
    · exact List.mem_cons_self

end Steward
