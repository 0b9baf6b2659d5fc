import Steward.Rehearsal.Part
import Steward.Rehearsal.StandIn

/-!
# Players

Those who take part in a service on a stage.

A player follows a script (`Part`) or is a stand-in (`StandIn`). Either way a
call to it is a *performance*: it begins, waits for a row of things, and ends.
What a stand-in does is settled when the performance ends, what a script says
when it begins.

A journal tells what was asked of players with a script: a start when it begins,
everything else just before it ends, with a mark if the context of the call was
cancelled when it began. Stand-ins write into a journal of their own, which may
be shared.

## Main definitions

* `Player`: A participant on a stage.
* `Performance`: A call to one, on its way.
* `Player.enter`, `Player.leave`: A performance begins and ends.
-/

namespace Steward.Rehearsal

/-- What a stand-in stands in for. -/
inductive Role where
  | server
  | dependency
deriving DecidableEq, Repr

/-- A participant on a stage. -/
inductive Player where
  | part (part : Part)
  /-- A stand-in. Its counts may be asked for. -/
  | standIn (role : Role) (counted : Bool) (standIn : StandIn)

/-- A call to a player, on its way. -/
structure Performance where
  /-- The number of the player. -/
  who : Nat
  method : Method
  /-- Whether the context of the call was cancelled when it began. -/
  cancelled : Bool
  /-- What is still waited for. -/
  waits : List Wait
  /-- How it goes, if it follows a script. -/
  cue : Cue := {}

/-- What players have written down. -/
structure Journal where
  entries : List String := []
  /-- The entries in the journal that stand-ins share. -/
  shared : List String := []
deriving DecidableEq, Repr

namespace Journal

/-- One journal after the other. -/
def append (j k : Journal) : Journal :=
  ⟨j.entries ++ k.entries, j.shared ++ k.shared⟩

end Journal

/-- How a performance ends. Which of the two results counts depends on what the
    player was asked to do. -/
structure Exit where
  result : Return := .ok (.ok ())
  health : Attempt Health := .ok .healthy
  journal : Journal := {}

/-- The word for a method in a journal. -/
def methodWord : Method → String
  | .start => "start"
  | .stop => "stop"
  | .close => "close"
  | .status => "status"

/-- An entry of a journal. -/
def entry (m : Method) (name : String) (cancelled : Bool) : String :=
  methodWord m ++ ":" ++ name ++ (if cancelled then " cancelled" else "")

namespace Player

/-- What a player answers when it is asked for its name. -/
def answer : Player → Attempt String
  | .part p => p.answer
  | .standIn _ _ s => .ok s.name

/-- Whether a player follows a script. -/
def isPart : Player → Bool
  | .part _ => true
  | .standIn .. => false

/-- A performance of the player with a number begins, for a call whose context is
    that of the given one. So many players with a script came earlier. -/
def enter (p : Player) (who earlier : Nat) (m : Method) (call : Nat) (cancelled : Bool) :
    Player × Performance × Journal :=
  match p with
  | .part p =>
    let (cue, p) := p.cue m
    let entries := if m = .start then [entry m p.name cancelled] else []
    (.part p, { who, method := m, cancelled, waits := cue.waits earlier call, cue }, { entries })
  | .standIn role counted s =>
    let waits := match m, s.onStart with
      | .start, .block => [.context call]
      | .start, .fail _ => [.delay StandIn.failureDelay]
      | .stop, _ => [.delay s.stopDelay]
      | _, _ => []
    let s := if m = .start then s.start else s
    (.standIn role counted s, { who, method := m, cancelled, waits }, {})

/-- A performance ends. -/
def leave (p : Player) (f : Performance) : Player × Exit :=
  match p with
  | .part p =>
    let entries := if f.method = .start then [] else [entry f.method p.name f.cancelled]
    (.part p, { result := f.cue.result, health := f.cue.health, journal := { entries } })
  | .standIn role counted s =>
    let keep (s : StandIn) := Player.standIn role counted s
    let journal : Journal :=
      if s.sharesJournal then { shared := [entry f.method s.name false] } else {}
    match f.method with
    | .start => (keep s, { result := s.startResult })
    | .stop => (keep s.stop, { result := s.stopResult, journal })
    | .close => (keep s.close, { result := s.closeResult, journal })
    | .status => (keep s, { health := s.status })

end Player

end Steward.Rehearsal
