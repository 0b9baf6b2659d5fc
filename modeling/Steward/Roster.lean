import Steward.Event
import Steward.Failure
import Steward.Settings

/-!
# The Roster

Who takes part in a service, and how far the service has come.

A roster holds at most one server, the dependencies in the order in which they
were attached, and two marks: the start was accepted, and the stop has ended
well. All that is decided about a roster is decided in one piece, from the first
look to the last change, so each function here is one step that nothing comes
between.

A participant is known by a handle of any type. Its name is foreign: the
participant is asked for it, it may answer differently each time, and it may
panic. The functions take the answers as `Answers`, a function of how often a
name was asked for in this step, and ask in the order in which they need them.

A refusal leaves the roster as it was. The reasons are looked at in a fixed
order and the first that applies is the one reported.

## Main definitions

* `Roster`: The participants and the two marks.
* `Roster.serve`, `Roster.attach`: Registering a participant.
* `Roster.admitStart`, `Roster.admitStop`: Whether a start or a stop may go on.
* `Roster.markStopped`: The stop has ended well.

## Theorems

* `serve_of_not_accepted`, `attach_of_not_accepted`: A refusal changes nothing.
-/

namespace Steward

variable {ι : Type}

/-- The participants of a service and how far it has come. -/
structure Roster (ι : Type) where
  /-- A start was accepted. -/
  initialized : Bool := false
  /-- A stop has ended without failures. -/
  stopped : Bool := false
  server : Option ι := none
  /-- The dependencies in the order in which they were attached. One that was
      attached twice is there twice. -/
  dependencies : List ι := []
deriving DecidableEq, Repr

/-- What participants answer when they are asked for their names: by the number
    of the question within a step, and by the participant asked. -/
abbrev Answers (ι : Type) := Nat → ι → Attempt String

/-- How a registration ends. -/
inductive Registration where
  /-- The participant has been registered, under this name. -/
  | accepted (name : String)
  /-- It has been refused. -/
  | refused (failure : Failure)
  /-- A participant broke off when it was asked for its name. -/
  | panicked (panic : Panic)

/-- Why a server is not registered. -/
inductive ServerRefusal where
  /-- The service was started. -/
  | initialized
  /-- The service was stopped. -/
  | stopped
  /-- No server was given. -/
  | missing
  /-- The server has an empty name. -/
  | unnamed
  /-- There is a server already, with this name. -/
  | taken (name : String)
deriving DecidableEq, Repr

/-- Why a dependency is not attached. That there is another one is no reason. -/
inductive DependencyRefusal where
  /-- The service was started. -/
  | initialized
  /-- The service was stopped. -/
  | stopped
  /-- No dependency was given. -/
  | missing
  /-- The dependency has an empty name. -/
  | unnamed
deriving DecidableEq, Repr

/-- Why a start is not accepted. -/
inductive StartRefusal where
  /-- The service was started before. -/
  | initialized
  /-- The service was stopped. -/
  | stopped
  /-- There is no server to start. -/
  | noServer
  /-- The settings name no signal to end on. -/
  | noSignals
  /-- The signals cannot be listened to, for this reason. -/
  | notListening (error : String)
deriving DecidableEq, Repr

/-- Why a stop is not accepted. -/
inductive StopRefusal where
  /-- The service was never started. -/
  | notInitialized
  /-- The service was stopped before. -/
  | stopped
deriving DecidableEq, Repr

/-- What a refused server is told. -/
def ServerRefusal.failure (r : ServerRefusal) : Failure :=
  (Failure.new "Failed to register server integration").addFinding <|
    match r with
    | .initialized => ⟨"Service must not be initialized for registering a server", []⟩
    | .stopped => ⟨"Service must not be stopped for registering a server", []⟩
    | .missing => ⟨"Server must not be nil", []⟩
    | .unnamed => ⟨"Server's name must be set and not be empty", ["server.name()"]⟩
    | .taken name =>
      ⟨"A server integration has already been registered (" ++ name ++
        "). A service can only have one server", []⟩

/-- What a refused dependency is told. -/
def DependencyRefusal.failure (r : DependencyRefusal) : Failure :=
  (Failure.new "Failed to attach dependency integration").addFinding <|
    match r with
    | .initialized => ⟨"Service must not be initialized for attaching a dependency", []⟩
    | .stopped => ⟨"Service must not be stopped for attaching a dependency", []⟩
    | .missing => ⟨"Dependency must not be nil", []⟩
    | .unnamed => ⟨"Dependency's name must be set and not be empty", ["dependency.name()"]⟩

/-- The failure that a start begins with and adds to. -/
def startFailure : Failure :=
  Failure.new "Failed to initialize the service"

/-- The failure that a stop begins with and adds to. -/
def stopFailure : Failure :=
  Failure.new "Failed to gracefully close service's connections"

/-- What a refused start is told. -/
def StartRefusal.failure : StartRefusal → Failure
  | .initialized => startFailure.addFinding ⟨"Service has already been initialized", []⟩
  | .stopped => startFailure.addFinding ⟨"Cannot initialize a stopped service", []⟩
  | .noServer =>
    startFailure.addFinding
      ⟨"Service must have a server registered via Serve before starting", []⟩
  | .noSignals =>
    startFailure.addFinding
      ⟨"At least one shutdown signal must be configured for starting",
        Settings.pathTo "shutdown_signals"⟩
  | .notListening error => startFailure.addCause (.plain error)

/-- What a refused stop is told. -/
def StopRefusal.failure : StopRefusal → Failure
  | .notInitialized => stopFailure.addFinding ⟨"Service must first be initialized", []⟩
  | .stopped => stopFailure.addFinding ⟨"Service has already been stopped", []⟩

namespace Roster

/-- Registers a server. The offered server is asked for its name, then the one
    already there if there is one; otherwise the offered one is asked again, for
    the name to announce it by. -/
def serve (r : Roster ι) (ask : Answers ι) (offered : Option ι) : Registration × Roster ι :=
  let refuse (why : ServerRefusal) : Registration × Roster ι := (.refused why.failure, r)
  if r.initialized then refuse .initialized
  else if r.stopped then refuse .stopped
  else match offered with
    | none => refuse .missing
    | some s =>
      match ask 0 s with
      | .error p => (.panicked p, r)
      | .ok name =>
        if name.isEmpty then refuse .unnamed
        else match r.server with
          | some current =>
            match ask 1 current with
            | .error p => (.panicked p, r)
            | .ok taken => refuse (.taken taken)
          | none =>
            match ask 1 s with
            | .error p => (.panicked p, r)
            | .ok name => (.accepted name, { r with server := some s })

/-- Attaches a dependency, after those already there. It is asked for its name
    twice: whether it has one, and what to announce it by. -/
def attach (r : Roster ι) (ask : Answers ι) (offered : Option ι) : Registration × Roster ι :=
  let refuse (why : DependencyRefusal) : Registration × Roster ι := (.refused why.failure, r)
  if r.initialized then refuse .initialized
  else if r.stopped then refuse .stopped
  else match offered with
    | none => refuse .missing
    | some d =>
      match ask 0 d with
      | .error p => (.panicked p, r)
      | .ok name =>
        if name.isEmpty then refuse .unnamed
        else match ask 1 d with
          | .error p => (.panicked p, r)
          | .ok name => (.accepted name, { r with dependencies := r.dependencies ++ [d] })

/-- Accepts a start: the server to run, and the roster marked as initialized.
    The signals are listened to from here on, and if that fails nothing is
    marked. -/
def admitStart (r : Roster ι) (signals : Signals) (listening : Except String Unit) :
    Except StartRefusal (ι × Roster ι) :=
  if r.initialized then .error .initialized
  else if r.stopped then .error .stopped
  else match r.server with
    | none => .error .noServer
    | some s =>
      if signals.isEmpty then .error .noSignals
      else match listening with
        | .error e => .error (.notListening e)
        | .ok () => .ok (s, { r with initialized := true })

/-- Accepts a stop: the participants as they are now. -/
def admitStop (r : Roster ι) : Except StopRefusal (Option ι × List ι) :=
  if !r.initialized then .error .notInitialized
  else if r.stopped then .error .stopped
  else .ok (r.server, r.dependencies)

/-- Marks a service as stopped. -/
def markStopped (r : Roster ι) : Roster ι :=
  { r with stopped := true }

/-- All participants, the server first. -/
def participants (r : Roster ι) : List ι :=
  r.server.toList ++ r.dependencies

/-- A server that is not accepted leaves no trace. -/
theorem serve_of_not_accepted {r : Roster ι} {ask : Answers ι} {offered : Option ι}
    (h : ∀ name, (r.serve ask offered).1 ≠ .accepted name) : (r.serve ask offered).2 = r := by
  unfold serve at h ⊢
  repeat' split
  all_goals simp_all

/-- A dependency that is not accepted leaves no trace. -/
theorem attach_of_not_accepted {r : Roster ι} {ask : Answers ι} {offered : Option ι}
    (h : ∀ name, (r.attach ask offered).1 ≠ .accepted name) :
    (r.attach ask offered).2 = r := by
  unfold attach at h ⊢
  repeat' split
  all_goals simp_all

end Roster

end Steward
