import Steward.Lifecycle.Call
import Steward.Rehearsal.Stage

/-!
# Parts

Participants that follow a script.

A script has a list of cues for each thing a participant can be asked to do. The
first call gets the first cue, the second call the second, and the last cue
serves all further calls. Without cues everything goes well at once.

A cue says what the call waits for, in this order: a gate, some time, the end of
its context. Then it says how the call ends. A panic comes before an error and
an error before success.

Calls whose cues take the same time end in the order in which the participants
came. To that end each takes a little more time than its cue says, namely as much
as there were participants with a script before it. So a call that is to take no
time waits all the same until nobody else can go on, unless it is one to the very
first of them.

## Main definitions

* `Cue`: How one call goes.
* `Part`: A name and a script.
* `Part.cue`: The cue for the next call.
-/

namespace Steward.Rehearsal

/-- How a call goes. -/
structure Cue where
  /-- The gate that the call waits for. -/
  hold : Option String := none
  /-- The time that it takes then. -/
  delay : Option Nat := none
  /-- Whether it goes on until its context is cancelled. -/
  untilCancelled : Bool := false
  panic : Option Panic := none
  error : Option Cause := none
  /-- The code of an answer about health. -/
  code : Nat := Health.okCode

namespace Cue

/-- How long a time of one is, on the clock of the stage. The number of players
    is small beside it. -/
def unit : Nat := 1000

/-- What a call waits for, one thing after the other, if so many participants with
    a script came earlier than the one it is made to. -/
def waits (c : Cue) (earlier call : Nat) : List Wait :=
  (c.hold.map .gate).toList ++ (c.delay.map fun d => .delay (d * unit + earlier)).toList ++
    (if c.untilCancelled then [.context call] else [])

/-- How a start, a stop or a close ends. -/
def result (c : Cue) : Return :=
  match c.panic, c.error with
  | some p, _ => .error p
  | none, some e => .ok (.error e)
  | none, none => .ok (.ok ())

/-- How a question for the health ends. -/
def health (c : Cue) : Attempt Health :=
  match c.panic with
  | some p => .error p
  | none => .ok ⟨c.code, c.error⟩

end Cue

/-- A participant with a script. -/
structure Part where
  name : String
  /-- Whether it breaks off when it is asked for its name. -/
  nameless : Bool := false
  script : Method → List Cue

namespace Part

/-- What the participant answers when it is asked for its name. -/
def answer (p : Part) : Attempt String :=
  if p.nameless then .error (.text (p.name ++ " has no name")) else .ok p.name

/-- The cue for the next call. The last one stays in the script. -/
def cue (p : Part) (m : Method) : Cue × Part :=
  match p.script m with
  | [] => ({}, p)
  | [c] => (c, p)
  | c :: rest => (c, { p with script := fun m' => if m' = m then rest else p.script m' })

end Part

end Steward.Rehearsal
