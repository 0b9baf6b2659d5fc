import Steward.Proofs.Disclosure

/-!
# How Loud a Report Is Told

Whether the log warns of a service that is not well.

A question for the health publishes one event, and the log makes one line of it. There
are two places where it is decided whether a report is bad news. The report itself asks
for a code of the two hundreds and for no error (`HealthReport.isHealthy`). The line
looks at the code alone, and is a warning with a reason as soon as the code is above 200
(`Event.logLine`).

The largest of the codes that were replied is never below 200, so the two disagree in
two cases. Nobody replies more than 200 and somebody has an error: the service is not
well, and what is told of it in passing has no reason. Or nobody has an error and the
largest code is one of the two hundreds, but not 200: the service is well, and is warned
of. In every other case the line is as loud as the report deserves.

## Main definitions

* `HealthReport.reason`: What a line can say of the error of a report.
* `LogLine.Warns`, `LogLine.IsQuiet`: The two ways to tell a report.
* `LogLine.Tells`: A report is told the way it deserves.
* `Reply.Hushed`, `Reply.Dramatised`: The replies that are not told so.

## Theorems

* `logLine_quiet`, `logLine_warns`: The code decides on the way.
* `Checked.hushed_iff`, `Checked.dramatised_iff`: The two cases, by the report.
* `reports_told_by_code`: When a report is told the way it deserves.
-/

namespace Steward

variable {ι : Type}

/-- What a line can say of the error of a report. -/
def HealthReport.reason (r : HealthReport) : String :=
  (r.error.map Failure.text).getD Event.missing

/-- A warning, with a reason. -/
def LogLine.Warns (l : LogLine) (why : String) : Prop :=
  l.level = .warn ∧ ("reason", .text why) ∈ l.fields

/-- A line in passing, without a reason. -/
def LogLine.IsQuiet (l : LogLine) : Prop :=
  l.level = .debug ∧ "reason" ∉ l.fieldNames

/-- A line warns of a service that is not well, and tells in passing of one that is. -/
def LogLine.Tells (l : LogLine) (r : HealthReport) : Prop :=
  if r.isHealthy then l.IsQuiet else l.Warns r.reason

/-- An error is replied, but no code above that of a participant that is well. -/
def Reply.Hushed (replies : List Reply) : Prop :=
  (∀ r ∈ replies, r.code ≤ Health.okCode) ∧ ∃ r ∈ replies, r.error? ≠ none

/-- Every reply is a good one, but there is another code than the usual. -/
def Reply.Dramatised (replies : List Reply) : Prop :=
  (∀ r ∈ replies, r.isGood = true) ∧ ∃ r ∈ replies, Health.okCode < r.code

namespace LogLine

variable {l : LogLine} {r : HealthReport}

theorem not_warns_of_isQuiet (h : l.IsQuiet) (why : String) : ¬l.Warns why := by
  intro hwarns
  cases h.1.symm.trans hwarns.1

theorem tells_iff_of_isQuiet (h : l.IsQuiet) : l.Tells r ↔ r.isHealthy = true := by
  rw [Tells]
  cases r.isHealthy with
  | true => exact iff_of_true h rfl
  | false => exact iff_of_false (not_warns_of_isQuiet h _) nofun

theorem tells_iff_of_warns (h : l.Warns r.reason) : l.Tells r ↔ r.isHealthy = false := by
  rw [Tells]
  cases r.isHealthy with
  | true => exact iff_of_false (fun hquiet => not_warns_of_isQuiet hquiet _ h) nofun
  | false => exact iff_of_true h rfl

end LogLine

section Line

variable {report : HealthReport}

/-- A code that is not above 200 is told in passing. -/
theorem logLine_quiet (h : report.code ≤ Health.okCode) (seq : Nat) :
    ((System.healthNotice report).stamp seq).logLine.IsQuiet := by
  have hline : ((System.healthNotice report).stamp seq).logLine =
      ⟨.debug, Event.logTarget, "health checked",
        [("code", .number report.code), ("seq", .number seq)], []⟩ :=
    if_neg (Nat.not_lt.mpr h)
  rw [hline]
  exact ⟨rfl, show "reason" ∉ ["message", "code", "seq"] by decide⟩

/-- A code above 200 is warned of. -/
theorem logLine_warns (h : Health.okCode < report.code) (seq : Nat) :
    ((System.healthNotice report).stamp seq).logLine.Warns report.reason := by
  have hline : ((System.healthNotice report).stamp seq).logLine =
      ⟨.warn, Event.logTarget, "health checked",
        [("code", .number report.code), ("reason", .text report.reason), ("seq", .number seq)],
        []⟩ :=
    if_pos h
  rw [hline]
  exact ⟨rfl, List.mem_cons_of_mem _ List.mem_cons_self⟩

end Line

namespace Checked

variable {who : List ι} {replies : List (ι × Reply)} {told : List Notice}
  {report : HealthReport}

theorem okCode_le (h : Checked who replies told report) : Health.okCode ≤ report.code := by
  rw [h.code_eq]
  exact le_foldl_max _ _

/-- The code is not above 200 exactly when no reply has one that is. -/
theorem code_le_iff (h : Checked who replies told report) :
    report.code ≤ Health.okCode ↔ ∀ r ∈ replies.map Prod.snd, r.code ≤ Health.okCode := by
  rw [h.code_eq, ← Nat.lt_succ_iff, foldl_max_lt_iff]
  simp only [Nat.lt_succ_self, true_and, List.forall_mem_map, Nat.lt_succ_iff]

theorem hushed_iff (h : Checked who replies told report) :
    Reply.Hushed (replies.map Prod.snd) ↔
      report.code ≤ Health.okCode ∧ report.isHealthy = false := by
  rw [Reply.Hushed, ← h.code_le_iff]
  refine and_congr_right fun hcode => ?_
  have herror : (∃ r ∈ replies.map Prod.snd, r.error? ≠ none) ↔ report.error ≠ none := by
    rw [Ne, h.none_iff]
    simp only [List.mem_map, exists_exists_and_eq_and, not_forall, exists_prop]
  -- The code is just 200, so the error alone decides.
  have hgood : report.isHealthy = report.error.isNone := by
    have heq : report.code = Health.okCode := Nat.le_antisymm hcode h.okCode_le
    rw [HealthReport.isHealthy, heq]
    exact Bool.true_and _
  rw [herror, hgood, Option.isNone_eq_false_iff, Option.isSome_iff_ne_none]

theorem dramatised_iff (h : Checked who replies told report) :
    Reply.Dramatised (replies.map Prod.snd) ↔
      report.isHealthy = true ∧ Health.okCode < report.code := by
  rw [Reply.Dramatised, List.forall_mem_map, ← h.healthy_iff, ← Nat.not_le, h.code_le_iff]
  simp only [not_forall, exists_prop, Nat.not_le]

end Checked

namespace System

variable {s : System ι} {call : Nat} {actions : List (Action ι)} {report : HealthReport}

/-- A report is told in one line, which warns and gives the reason if the code is above
    200, and otherwise does neither. So it is told the way it deserves unless its
    replies have an error and no code above 200, or are all good and have one. -/
theorem reports_told_by_code (h : Reports s call actions report) :
    ∃ notice : Notice, s.toldBy call actions = [notice] ∧ ∀ seq : Nat,
      (report.code ≤ Health.okCode → (notice.stamp seq).logLine.IsQuiet) ∧
      (Health.okCode < report.code → (notice.stamp seq).logLine.Warns report.reason) ∧
      ((notice.stamp seq).logLine.Tells report ↔
        ¬Reply.Hushed ((s.replies call actions).map Prod.snd) ∧
        ¬Reply.Dramatised ((s.replies call actions).map Prod.snd)) := by
  have hchecked := h.checked
  refine ⟨healthNotice report, hchecked.told_eq, fun seq =>
    ⟨fun hcode => logLine_quiet hcode seq, fun hcode => logLine_warns hcode seq, ?_⟩⟩
  rw [hchecked.hushed_iff, hchecked.dramatised_iff]
  -- The loudness goes by the code alone, so the line tells of the report exactly when
  -- its health agrees with the code.
  rcases Nat.lt_or_ge Health.okCode report.code with hcode | hcode
  · rw [LogLine.tells_iff_of_warns (logLine_warns hcode seq)]
    simp only [Nat.not_le.mpr hcode, hcode, false_and, not_false_eq_true, and_true, true_and,
      Bool.not_eq_true]
  · rw [LogLine.tells_iff_of_isQuiet (logLine_quiet hcode seq)]
    simp only [Nat.not_lt.mpr hcode, hcode, and_false, not_false_eq_true, and_true, true_and,
      Bool.not_eq_false]

/-- A server that cannot be reached is warned of, with what it has replied. -/
theorem reports_told_by_code_unreachable :
    let before : List (Action Nat) := [.serve (fun _ _ => .ok "api") (some 0), .begin .status]
    let actions : List (Action Nat) := [.enterStatus 1, .runProbe 1 0 (.ok "api"),
      .endProbe 1 0 (.ok (.unavailable (.plain "timeout"))), .joinProbe 1, .concludeStatus 1]
    ∃ s shown report notice, (System.initial Settings.standard).run before = some (s, shown) ∧
      s.Reports 1 actions report ∧ report.isHealthy = false ∧
      s.toldBy 1 actions = [notice] ∧ (notice.stamp 7).logLine.Tells report ∧
      (notice.stamp 7).logLine.Warns
        "Service is not in a healthy state. Caused by:\n\n- timeout\n" := by
  intro before actions
  have hbefore : (System.initial Settings.standard).run before = some (_, _) := rfl
  have hreports : System.Reports _ 1 actions _ :=
    ⟨⟨_, Reachable.initial.run hbefore⟩, rfl, _, _, rfl, rfl⟩
  rcases reports_told_by_code hreports with ⟨notice, htold, hline⟩
  rcases hline 7 with ⟨-, hwarns, htells⟩
  -- The one reply is above the code and failed at that, so it is neither hushed nor dramatised.
  refine ⟨_, _, _, notice, hbefore, hreports, rfl, htold, htells.mpr ⟨?_, ?_⟩, ?_⟩
  · rintro ⟨hcodes, -⟩
    exact absurd (hcodes (.answered "api" (.ok (.unavailable (.plain "timeout"))))
      List.mem_cons_self) (by decide)
  · rintro ⟨hgood, -⟩
    exact absurd (hgood (.answered "api" (.ok (.unavailable (.plain "timeout"))))
      List.mem_cons_self) nofun
  · exact hwarns (by decide)

/-- A server that answers but has an error to tell of is not warned of, and one that is
    well and has no content to show is. So a line does not always tell of a report the
    way it deserves. -/
theorem degraded_is_hushed :
    let before : List (Action Nat) := [.serve (fun _ _ => .ok "api") (some 0), .begin .status]
    let actions (health : Health) : List (Action Nat) := [.enterStatus 1,
      .runProbe 1 0 (.ok "api"), .endProbe 1 0 (.ok health), .joinProbe 1, .concludeStatus 1]
    let degraded := (Health.ofCode 200).withError (.plain "degraded")
    ∃ s shown bad good, (System.initial Settings.standard).run before = some (s, shown) ∧
      s.Reports 1 (actions degraded) bad ∧ bad.isHealthy = false ∧
      (∃ notice : Notice, s.toldBy 1 (actions degraded) = [notice] ∧
        ∀ seq, (notice.stamp seq).logLine.IsQuiet) ∧
      s.Reports 1 (actions (.ofCode 204)) good ∧ good.isHealthy = true ∧
      (∃ notice : Notice, s.toldBy 1 (actions (.ofCode 204)) = [notice] ∧
        ∀ seq, (notice.stamp seq).logLine.Warns Event.missing) ∧
      ¬∀ (s : System Nat) call actions report, s.Reports call actions report →
        ∀ notice ∈ s.toldBy call actions, ∀ seq, (notice.stamp seq).logLine.Tells report := by
  intro before actions degraded
  have hbefore : (System.initial Settings.standard).run before = some (_, _) := rfl
  have hbad : System.Reports _ 1 (actions degraded) _ :=
    ⟨⟨_, Reachable.initial.run hbefore⟩, rfl, _, _, rfl, rfl⟩
  have hgood : System.Reports _ 1 (actions (.ofCode 204)) _ :=
    ⟨⟨_, Reachable.initial.run hbefore⟩, rfl, _, _, rfl, rfl⟩
  refine ⟨_, _, _, _, hbefore, hbad, rfl,
    ⟨_, hbad.checked.told_eq, logLine_quiet (by decide)⟩, hgood, rfl,
    ⟨_, hgood.checked.told_eq, logLine_warns (by decide)⟩, fun hagree => ?_⟩
  have htells := hagree _ _ _ _ hbad _
    (hbad.checked.told_eq ▸ List.mem_singleton_self _) 0
  -- The first report already is told as if nothing were wrong.
  have hquiet : ((healthNotice (Tally.ofAnswers [degraded]).report).stamp 0).logLine.IsQuiet :=
    logLine_quiet (by decide) 0
  cases (LogLine.tells_iff_of_isQuiet hquiet).mp htells

end System

end Steward
