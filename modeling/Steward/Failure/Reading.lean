import Steward.Failure
import Steward.Json.Reader

/-!
# Failures from JSON

A failure as it arrives in the body of somebody else's answer.

The body has at most a message and a list of findings. Members under other
names are passed over, the subsystem and the causes among them, so what is read
has neither. A body without findings, or with `null` in their place, leaves them
unset.

## Main definitions

* `Finding.shape`, `Failure.shape`: The shapes to read at.
* `Finding.ofDatum?`, `Failure.ofDatum?`: What was read, as a finding or failure.
* `Failure.ofBody`: Reading a failure.
-/

namespace Steward

/-- A finding needs a message and may have a path. -/
def Finding.shape : Json.Shape :=
  .record [⟨"message", true, .text⟩, ⟨"path", false, .list .text⟩]

/-- A failure may have a message and findings. -/
def Failure.shape : Json.Shape :=
  .record [⟨"message", false, .text⟩, ⟨"validations", false, .optional (.list Finding.shape)⟩]

/-- A string that was read. -/
def Json.Datum.text? : Json.Datum → Option String
  | .text s => some s
  | _ => none

/-- The items of a list that was read. -/
def Json.Datum.list? : Json.Datum → Option (List Json.Datum)
  | .list items => some items
  | _ => none

/-- A finding out of a datum of its shape. -/
def Finding.ofDatum? : Json.Datum → Option Finding
  | .record [some message, none] => do
    return { message := ← message.text? }
  | .record [some message, some path] => do
    return { message := ← message.text?, path := ← (← path.list?).mapM Json.Datum.text? }
  | _ => none

/-- The findings out of a datum of their shape. `none` within is unset. -/
def Failure.findingsOfDatum? : Option Json.Datum → Option (Option (List Finding))
  | none | some .absent => some none
  | some (.list items) => (items.mapM Finding.ofDatum?).map some
  | some _ => none

/-- A failure out of a datum of its shape. -/
def Failure.ofDatum? : Json.Datum → Option Failure
  | .record [message, findings] => do
    let message ← match message with
      | none => some ""
      | some d => d.text?
    return { message, findings := ← Failure.findingsOfDatum? findings }
  | _ => none

/-- Reading a failure. A datum of another shape than the one asked for is not
    among those a reader returns, so the last refusal is never the outcome. -/
def Failure.ofBody (text : String) : Except Json.ReadError Failure :=
  match Json.read Failure.shape text.toList with
  | .error e => .error e
  | .ok d =>
    match Failure.ofDatum? d with
    | some f => .ok f
    | none => .error .mismatched

end Steward
