import Steward.Lifecycle.Call

/-!
# Stand-ins

Participants for trying a service out, told beforehand how to behave.

A stand-in is made with a name and then told what to do otherwise than well. It
counts what it is asked to do. It fails as often as it was told to, each failing
call using up one failure, and does well from then on. Being told the same kind
of thing again replaces what was told before.

The same stand-in can take the part of a server or that of a dependency.

## Main definitions

* `StandIn`: A stand-in.
* `StandIn.withStart` to `StandIn.sharingJournal`: Telling it what to do.
* `StandIn.start`, `StandIn.stop`, `StandIn.close`, `StandIn.status`: What
  becomes of it when it is asked to do something, and how that ends.
-/

namespace Steward.Rehearsal

/-- What a stand-in does when it is started. -/
inductive StartBehaviour where
  /-- It runs until its context is cancelled. -/
  | block
  /-- It returns at once. -/
  | exit
  /-- It breaks off at once. -/
  | panic
  /-- It fails with a text after a short while. -/
  | fail (error : String)
deriving DecidableEq, Repr

/-- A participant that does what it was told. -/
structure StandIn where
  name : String
  onStart : StartBehaviour := .block
  code : Nat := Health.okCode
  error : Option String := none
  /-- Whether it breaks off when it is asked for its health. -/
  explodes : Bool := false
  /-- How often stopping still fails. -/
  stopFailures : Nat := 0
  /-- How long stopping takes. -/
  stopDelay : Nat := 0
  /-- How often closing still fails. -/
  closeFailures : Nat := 0
  /-- Whether it writes into the journal that all share. -/
  sharesJournal : Bool := false
  starts : Nat := 0
  stops : Nat := 0
  closes : Nat := 0
deriving DecidableEq, Repr

namespace StandIn

/-- It starts in this way. -/
def withStart (s : StandIn) (behaviour : StartBehaviour) : StandIn :=
  { s with onStart := behaviour }

/-- Stopping fails so many times. -/
def failingStop (s : StandIn) (times : Nat) : StandIn :=
  { s with stopFailures := times }

/-- Stopping takes so long. -/
def slowStop (s : StandIn) (time : Nat) : StandIn :=
  { s with stopDelay := time }

/-- Closing fails so many times. -/
def failingClose (s : StandIn) (times : Nat) : StandIn :=
  { s with closeFailures := times }

/-- Asked for its health it answers this. -/
def withStatus (s : StandIn) (code : Nat) (error : Option String) : StandIn :=
  { s with code, error }

/-- Asked for its health it breaks off. -/
def panickingStatus (s : StandIn) : StandIn :=
  { s with explodes := true }

/-- It writes into the journal that all share. -/
def sharingJournal (s : StandIn) : StandIn :=
  { s with sharesJournal := true }

/-- How long it takes a start to fail. -/
def failureDelay : Nat := 10

/-- The answer of a call that fails while failures are left. -/
def failing (left : Nat) (error : String) : Return :=
  if 0 < left then .ok (.error (.plain error)) else .ok (.ok ())

/-- It was asked to start. -/
def start (s : StandIn) : StandIn :=
  { s with starts := s.starts + 1 }

/-- How the start ends. -/
def startResult (s : StandIn) : Return :=
  match s.onStart with
  | .block | .exit => .ok (.ok ())
  | .panic => .error (.text (s.name ++ " start exploded"))
  | .fail error => .ok (.error (.plain error))

/-- It was stopped. -/
def stop (s : StandIn) : StandIn :=
  { s with stops := s.stops + 1, stopFailures := s.stopFailures - 1 }

/-- How the stopping ends. -/
def stopResult (s : StandIn) : Return :=
  failing s.stopFailures (s.name ++ " refused to stop")

/-- It was closed. -/
def close (s : StandIn) : StandIn :=
  { s with closes := s.closes + 1, closeFailures := s.closeFailures - 1 }

/-- How the closing ends. -/
def closeResult (s : StandIn) : Return :=
  failing s.closeFailures (s.name ++ " connection reset")

/-- What it answers when it is asked for its health. -/
def status (s : StandIn) : Attempt Health :=
  if s.explodes then .error (.text (s.name ++ " status exploded"))
  else .ok ⟨s.code, s.error.map .plain⟩

end StandIn

end Steward.Rehearsal
