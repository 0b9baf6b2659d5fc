import Steward.Broadcast

/-!
# Receivers

Receivers of a ring, known by name.

A receiver joins at the end of what has been published so far. It takes entries
without waiting. Once nothing more will be published and it has taken all there
is, it is told so, and with that it is gone; it takes nothing any more.

## Main definitions

* `Broadcast.takeToEnd`: What a receiver takes, up to the news of the end.
* `Receivers`: Receivers by name.
-/

namespace Steward

/-- What a receiver takes without waiting, up to a number of entries, and its
    place afterwards if it is not gone. -/
def Broadcast.takeToEnd {α : Type} (r : Broadcast α) (ended : Bool) (limit : Option Nat)
    (next : Nat) : List (Received α) × Option Nat :=
  let limit := limit.getD (r.ahead next + 1)
  let (got, next) := r.take limit next
  if ended && got.length < limit then (got ++ [.closed], none) else (got, some next)

namespace Rehearsal

/-- Receivers, each with the number of the item it takes next. -/
structure Receivers where
  places : List (String × Nat) := []
deriving DecidableEq, Repr

namespace Receivers

/-- A receiver goes. -/
def leave (r : Receivers) (name : String) : Receivers :=
  { places := r.places.filter fun (n, _) => n != name }

/-- A receiver joins and takes the place of one with the same name. -/
def join (r : Receivers) (name : String) (next : Nat) : Receivers :=
  { places := (name, next) :: (r.leave name).places }

/-- A receiver takes what there is, up to a number of entries. One that is not
    there takes nothing. -/
def receive {α : Type} (r : Receivers) (ring : Broadcast α) (ended : Bool) (name : String)
    (limit : Option Nat) : List (Received α) × Receivers :=
  match r.places.lookup name with
  | none => ([], r)
  | some next =>
    match ring.takeToEnd ended limit next with
    | (got, some next) => (got, r.join name next)
    | (got, none) => (got, r.leave name)

end Receivers

end Rehearsal

end Steward
