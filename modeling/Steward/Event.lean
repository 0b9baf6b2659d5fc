/-!
# Events

What a service tells about itself while it runs.

A `Notice` says what happened, to whom, and why. It becomes an `Event` once it
has a number. Numbers are given in the order in which events come about, so the
number of an event also tells which of two came first.

Two kinds of event are about those who listen rather than about the service: a
subscriber that could not take an event, and one that broke off while handling
one.

## Main definitions

* `EventKind`: What can happen.
* `Notice`: What happened, without a number.
* `Event`: A notice with its number.
* `EventKind.isDiagnostic`: The kinds that are about subscribers.
-/

namespace Steward

/-- What can happen. -/
inductive EventKind where
  /-- A server was registered. -/
  | serverRegistered
  /-- A dependency was attached. -/
  | dependencyAttached
  /-- The start was accepted; the server is about to run. -/
  | serviceStarting
  /-- A shutdown signal arrived. -/
  | shutdownRequested
  /-- The server returned an error or its task died. -/
  | serverFailed
  /-- The server returned before any signal, without an error. -/
  | serverExited
  /-- The stop was accepted; the server is about to be stopped. -/
  | serviceStopping
  /-- The server has stopped. -/
  | serverStopped
  /-- A dependency has closed. -/
  | dependencyClosed
  /-- The server did not stop, or a dependency did not close. -/
  | closeFailed
  /-- The stop ended with failures; it can be tried again. -/
  | stopFailed
  /-- The stop ended, for good. -/
  | serviceStopped
  /-- The health of the service was asked for. -/
  | healthChecked
  /-- A subscriber could not take an event. -/
  | subscriberOverflow
  /-- A subscriber broke off while it handled an event. -/
  | subscriberPanicked
deriving DecidableEq, Repr

/-- The name under which a kind is reported. -/
def EventKind.name : EventKind → String
  | .serverRegistered => "ServerRegistered"
  | .dependencyAttached => "DependencyAttached"
  | .serviceStarting => "ServiceStarting"
  | .shutdownRequested => "ShutdownRequested"
  | .serverFailed => "ServerFailed"
  | .serverExited => "ServerExited"
  | .serviceStopping => "ServiceStopping"
  | .serverStopped => "ServerStopped"
  | .dependencyClosed => "DependencyClosed"
  | .closeFailed => "CloseFailed"
  | .stopFailed => "StopFailed"
  | .serviceStopped => "ServiceStopped"
  | .healthChecked => "HealthChecked"
  | .subscriberOverflow => "SubscriberOverflow"
  | .subscriberPanicked => "SubscriberPanicked"

/-- All kinds. -/
def EventKind.all : List EventKind :=
  [.serverRegistered, .dependencyAttached, .serviceStarting, .shutdownRequested, .serverFailed,
    .serverExited, .serviceStopping, .serverStopped, .dependencyClosed, .closeFailed,
    .stopFailed, .serviceStopped, .healthChecked, .subscriberOverflow, .subscriberPanicked]

/-- The kind that is reported under a name. -/
def EventKind.ofName? (name : String) : Option EventKind :=
  EventKind.all.find? (·.name == name)

/-- Whether a kind is about subscribers rather than about the service. -/
def EventKind.isDiagnostic : EventKind → Bool
  | .subscriberOverflow | .subscriberPanicked => true
  | _ => false

/-- What happened. -/
structure Notice where
  kind : EventKind
  /-- The participant or the subscriber it happened to. -/
  integration : Option String := none
  /-- The text of an error, the name of a signal, and the like. -/
  reason : Option String := none
  /-- The code of a health report. -/
  code : Option Nat := none
deriving DecidableEq, Repr

namespace Notice

/-- Names the participant it is about. -/
def about (n : Notice) (integration : String) : Notice :=
  { n with integration := some integration }

/-- Gives the reason. -/
def because (n : Notice) (reason : String) : Notice :=
  { n with reason := some reason }

/-- Gives the code. -/
def withCode (n : Notice) (code : Nat) : Notice :=
  { n with code := some code }

/-- A subscriber could not take an event. -/
def overflow (subscriber reason : String) : Notice :=
  ⟨.subscriberOverflow, some subscriber, some reason, none⟩

/-- A subscriber broke off with a text. -/
def panicked (subscriber info : String) : Notice :=
  ⟨.subscriberPanicked, some subscriber, some info, none⟩

end Notice

/-- Something that happened, with its place in the order of events. -/
structure Event extends Notice where
  seq : Nat
deriving DecidableEq, Repr

/-- Gives a notice its number. -/
def Notice.stamp (n : Notice) (seq : Nat) : Event :=
  { n with seq }

/-- Gives notices their numbers, from a first one on. -/
def Notice.stampAll (notices : List Notice) (first : Nat) : List Event :=
  notices.zipIdx.map fun (n, i) => n.stamp (first + i)

end Steward
