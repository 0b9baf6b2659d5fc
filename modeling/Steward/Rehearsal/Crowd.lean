import Steward.Rehearsal.Script

/-!
# A Crowd

Many participants that come to a service at the same time.

Each registration is decided in one step, so whatever the order in which they
come, they come one after the other. How many are accepted does not depend on
that order, and neither does the set of those attached. Which server is the one
accepted does, so only that there is one can be told.

## Main definitions

* `Crowd`: What becomes of a crowd.
* `Crowd.register`: All of them come.
-/

namespace Steward.Rehearsal

/-- What becomes of a crowd. -/
structure Crowd where
  accepted : Nat
  rejected : Nat
  /-- The names of the dependencies that were attached, in alphabetical order. -/
  dependencies : List String
  hasServer : Bool
  /-- How many events were published. -/
  published : Nat
deriving DecidableEq, Repr

/-- Whether a reply tells of success. -/
def Reply.isDone : Reply → Bool
  | .done | .ended .done => true
  | _ => false

namespace Crowd

/-- A crowd comes, by name: as servers or as dependencies. -/
def register (role : Role) (names : List String) : Except String Crowd :=
  (Play.begin .standard [] false).map fun p =>
    let step (name : String) : Step :=
      let player := some (Player.standIn role false { name })
      match role with
      | .server => .serve player
      | .dependency => .attach player
    let (replies, p) := p.steps (names.map step)
    let roster := p.rosterView
    { accepted := (replies.filter Reply.isDone).length
      rejected := (replies.filter (!·.isDone)).length
      dependencies := (roster.dependencies.filterMap Except.toOption).mergeSort
        fun a b => decide (a ≤ b)
      hasServer := roster.server.isSome
      published := p.crew.relay.delivery.ring.total }

end Crowd

end Steward.Rehearsal
