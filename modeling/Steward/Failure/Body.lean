import Steward.Failure
import Steward.Json.Literal

/-!
# Failures as JSON

The form in which a failure leaves the service.

A body tells the message and the findings of a failure and nothing else: where
it came from and what caused it are not for the outside. What is empty is left
out, so the failure without message and findings is written `{}`.

## Main definitions

* `Finding.json`: A finding as an object.
* `Failure.json`: A failure as an object.
* `Failure.body`: The same as a text.
-/

namespace Steward

/-- A finding as an object. An empty path is left out. -/
def Finding.json (f : Finding) : List Char :=
  Json.object (Json.member "message" (Json.literal f.message) ::
    if f.path.isEmpty then []
    else [Json.member "path" (Json.array (f.path.map Json.literal))])

namespace Failure

/-- The members of a failure's object: the message unless it is empty, and the
    findings if there are any. -/
def members (f : Failure) : List (List Char) :=
  (if f.message.isEmpty then [] else [Json.member "message" (Json.literal f.message)]) ++
    if f.hasFindings then
      [Json.member "validations" (Json.array (f.findingList.map Finding.json))]
    else []

/-- A failure as an object. -/
def json (f : Failure) : List Char :=
  Json.object f.members

/-- The JSON text of a failure. -/
def body (f : Failure) : String :=
  String.ofList f.json

end Failure

end Steward
