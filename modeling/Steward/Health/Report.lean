import Steward.Failure.Body
import Steward.Health

/-!
# Health of a Service

The answers of all participants, reduced to one.

The code of a report is the largest that was answered, and never below 200: a
service that nobody has anything to say about is well. The errors are gathered
on their own, whatever the codes, as the causes of one failure. Whether the
service is well asks for both, a code of the two hundreds and no error.

The order in which the answers arrive shows in the order of the causes and in
nothing else.

## Main definitions

* `HealthReport`: A code and perhaps a failure.
* `Tally`: Answers gathered so far.
* `HealthReport.ofAnswers`: The report on answers in their order of arrival.
* `HealthReport.body`: The report as JSON.

## Theorems

* `Tally.ofAnswers_code`: The code is the largest one.
* `Tally.ofAnswers_errors`: The errors are those of the answers, in order.
-/

namespace Steward

/-- The health of a service. -/
structure HealthReport where
  code : Nat
  error : Option Failure

namespace HealthReport

/-- Whether the service is well: a code of the two hundreds and no error. -/
def isHealthy (r : HealthReport) : Bool :=
  200 ≤ r.code && r.code < 300 && r.error.isNone

/-- The code, on the side of the failure if there is one. -/
def result (r : HealthReport) : Except (Nat × Failure) Nat :=
  match r.error with
  | some failure => .error (r.code, failure)
  | none => .ok r.code

/-- The report as a JSON object. -/
def json (r : HealthReport) : List Char :=
  Json.object (Json.member "status" (Nat.toDigits 10 r.code) ::
    match r.error with
    | some failure => [Json.member "error" failure.json]
    | none => [])

/-- The JSON text of the report. -/
def body (r : HealthReport) : String :=
  String.ofList r.json

end HealthReport

/-- What has been gathered of the answers so far. -/
structure Tally where
  code : Nat := Health.okCode
  errors : List Cause := []

namespace Tally

/-- One more answer. -/
def add (t : Tally) (h : Health) : Tally where
  code := max t.code h.code
  errors := t.errors ++ h.error.toList

/-- Answers in their order of arrival. -/
def ofAnswers (answers : List Health) : Tally :=
  answers.foldl add {}

/-- The failure behind a report with these errors. -/
def failure (t : Tally) : Option Failure :=
  if t.errors.isEmpty then none
  else some ((Failure.new "Service is not in a healthy state").addCauses t.errors)

/-- The report on what was gathered. -/
def report (t : Tally) : HealthReport :=
  ⟨t.code, t.failure⟩

/-- What was gathered does not depend on where one started to add. -/
theorem foldl_add_errors (t : Tally) (answers : List Health) :
    (answers.foldl add t).errors = t.errors ++ answers.flatMap (·.error.toList) := by
  induction answers generalizing t with
  | nil => simp
  | cons h rest ih => rw [List.foldl_cons, ih, add, List.flatMap_cons, List.append_assoc]

/-- The errors are those of the answers, in their order. -/
theorem ofAnswers_errors (answers : List Health) :
    (ofAnswers answers).errors = answers.flatMap (·.error.toList) := by
  rw [ofAnswers, foldl_add_errors, List.nil_append]

/-- The code gathered is the largest of those added and of the one before. -/
theorem foldl_add_code (t : Tally) (answers : List Health) :
    (answers.foldl add t).code = (answers.map (·.code)).foldl max t.code := by
  induction answers generalizing t with
  | nil => rfl
  | cons h rest ih => rw [List.foldl_cons, ih, List.map_cons, List.foldl_cons, add]

/-- The code is the largest one, or 200. -/
theorem ofAnswers_code (answers : List Health) :
    (ofAnswers answers).code = (answers.map (·.code)).foldl max Health.okCode :=
  foldl_add_code {} answers

end Tally

namespace HealthReport

/-- The report on answers in their order of arrival. -/
def ofAnswers (answers : List Health) : HealthReport :=
  (Tally.ofAnswers answers).report

end HealthReport

end Steward
