import Steward.Lifecycle.Next

/-!
# The Stage

Whose turn it is, and who waits for what.

On a stage everything is done by one actor at a time. An actor that can go on
stands in line, at most once, and gets its turn when all before it have had
theirs. An actor that has to wait leaves the line and comes back to its end when
what it waits for has come about: a gate is opened, a context is cancelled, or a
moment is reached. If several wait for the same thing they come back in the
order in which they began to wait.

The clock stands still while anybody is in line. When the line is empty it moves
on to the next moment somebody waits for. A gate that was opened stays open, and
a context that was cancelled stays cancelled.

An actor that would do very much in one turn gives way instead. Until the next
break it cannot be roused. There is a break when the line is empty, and in any
case after a fixed number of turns. In a break those who gave way come back, the
last one first, and the clock does not move.

## Main definitions

* `Actor`: Those who take turns.
* `Wait`: What there is to wait for.
* `Comeback`: What a break brings back.
* `Stage.rouse`: An actor joins the line.
* `Stage.proceed`: An actor passes what it need not wait for.
* `Stage.defer`, `Stage.resume`: Giving way, and coming back.
* `Stage.next?`: Who gets the next turn.
-/

namespace Steward.Rehearsal

/-- Those who take turns. -/
inductive Actor where
  /-- A call of a number. -/
  | call (number : Nat)
  /-- The server at work. -/
  | server
  /-- A task that a call has spawned. -/
  | part (call place : Nat)
  | relay
  /-- The worker of a subscriber. -/
  | worker (place : Nat)
deriving DecidableEq, Repr

/-- What there is to wait for. -/
inductive Wait where
  /-- A gate is opened. -/
  | gate (name : String)
  /-- So much time has passed. -/
  | delay (time : Nat)
  /-- The clock shows this moment. -/
  | moment (time : Nat)
  /-- The context of a call is cancelled. -/
  | context (call : Nat)
deriving DecidableEq, Repr

/-- What a break brings back. -/
inductive Comeback where
  /-- An actor that gave way in its turn. -/
  | actor (a : Actor)
  /-- What a call put aside. -/
  | aside (call : Nat)
deriving DecidableEq, Repr

/-- The line of those who can go on, and those who wait. -/
structure Stage where
  /-- Who can go on, the next one first. -/
  line : List Actor := []
  /-- Who waits for what, in the order in which they began to. -/
  waiting : List (Actor × Wait) := []
  opened : List String := []
  /-- The calls whose contexts are cancelled. -/
  cancelled : List Nat := []
  clock : Nat := 0
  /-- What the next break brings back, in this order. -/
  deferred : List Comeback := []
  /-- How many turns there were since the last break. -/
  turns : Nat := 0
deriving DecidableEq, Repr

namespace Stage

/-- How many turns there are between two breaks at most. -/
def interval : Nat := 61

/-- How many turns and breaks are waited for. Subscribers that break off over the
    news of each other would take turns for ever. -/
def patience : Nat := 1000000

/-- An actor joins the end of the line, unless it stands there already or has
    given way. -/
def rouse (s : Stage) (a : Actor) : Stage :=
  if a ∈ s.line ∨ .actor a ∈ s.deferred then s else { s with line := s.line ++ [a] }

/-- Several actors join the line in their order. -/
def rouseAll (s : Stage) (actors : List Actor) : Stage :=
  actors.foldl rouse s

/-- Whether there is nothing to wait for any more. -/
def passed (s : Stage) : Wait → Bool
  | .gate g => s.opened.contains g
  | .delay t => t = 0
  | .moment t => t ≤ s.clock
  | .context call => s.cancelled.contains call

/-- An actor begins to wait. -/
def waitFor (s : Stage) (a : Actor) (w : Wait) : Stage :=
  if (a, w) ∈ s.waiting then s else { s with waiting := s.waiting ++ [(a, w)] }

/-- An actor with a row of things to wait for passes those that have come about
    and begins to wait for the first that has not. What is left of the row is
    given back. -/
def proceed (s : Stage) (a : Actor) : List Wait → List Wait × Stage
  | [] => ([], s)
  | w :: rest =>
    if s.passed w then s.proceed a rest
    else
      let w := match w with
        | .delay t => .moment (s.clock + t)
        | w => w
      (w :: rest, s.waitFor a w)

/-- Those who waited for something that has come about join the line. -/
def freePassed (s : Stage) : Stage :=
  let free := s.waiting.filter fun (_, w) => s.passed w
  { s with waiting := s.waiting.filter fun (_, w) => !s.passed w }.rouseAll (free.map Prod.fst)

/-- A gate is opened. -/
def openGate (s : Stage) (gate : String) : Stage :=
  { s with opened := gate :: s.opened }.freePassed

/-- The context of a call is cancelled. -/
def cancel (s : Stage) (call : Nat) : Stage :=
  { s with cancelled := call :: s.cancelled }.freePassed

/-- Something is left to the next break. -/
def defer (s : Stage) (c : Comeback) : Stage :=
  { s with deferred := c :: s.deferred }

/-- Whether it is time for a break: because of the number of turns, or because
    nobody stands in line and a break would bring something back. -/
def needsBreak (s : Stage) : Bool :=
  interval ≤ s.turns || (s.line.isEmpty && !s.deferred.isEmpty)

/-- The turns are counted anew. -/
def recount (s : Stage) : Stage :=
  { s with turns := 0 }

/-- There is a break, which brings these back. -/
def resume (s : Stage) : List Comeback × Stage :=
  (s.deferred, { s with deferred := [] }.recount)

/-- The next moment that somebody waits for. -/
def nextMoment? (s : Stage) : Option Nat :=
  (s.waiting.filterMap fun
    | (_, .moment t) => some t
    | _ => none).min?

/-- Who gets the next turn. If nobody stands in line the clock moves on first. -/
def next? (s : Stage) : Option (Actor × Stage) :=
  let s := match s.line, s.nextMoment? with
    | [], some t => { s with clock := max s.clock t }.freePassed.recount
    | _, _ => s
  match s.line with
  | a :: line => some (a, { s with line, turns := s.turns + 1 })
  | [] => none

/-- The gates that are waited for, each with the number of those who wait. -/
def gates (s : Stage) : List (String × Nat) :=
  let names := s.waiting.filterMap fun
    | (_, .gate g) => some g
    | _ => none
  (keepFirst names).map fun g => (g, names.count g)

end Stage

end Steward.Rehearsal
