import Steward.Event

/-!
# Log Lines

The log as data: a line has a level, a target, a message and fields.

Every event becomes one line. What went well is told at `info`, or at `debug`
where it happens often; what failed is told at `warn`, or at `error` where the
service itself is affected. A health report is bad news if its code is above
200, and only then its reason is told.

A field is a text, a text that is shown without quotes, a number or a truth
value. A field that has no value is left out of the line, and yet the line is
known to be of the kind that has it.

## Main definitions

* `LogLevel`, `LogValue`, `LogLine`: What a line is made of.
* `LogLine.fieldNames`: The fields that a line is known to have.
* `Event.logLine`: The line of an event.
-/

namespace Steward

/-- How much a line matters. -/
inductive LogLevel where
  | trace
  | debug
  | info
  | warn
  | error
deriving DecidableEq, Repr

/-- The name of a level in a line. -/
def LogLevel.name : LogLevel → String
  | .trace => "TRACE"
  | .debug => "DEBUG"
  | .info => "INFO"
  | .warn => "WARN"
  | .error => "ERROR"

/-- The value of a field. -/
inductive LogValue where
  /-- A text, quoted where a line is for people. -/
  | text (s : String)
  /-- A text that is never quoted. -/
  | bare (s : String)
  | number (n : Nat)
  | truth (b : Bool)
deriving DecidableEq, Repr

/-- One line of the log. -/
structure LogLine where
  level : LogLevel
  /-- The part of the program that speaks. -/
  target : String
  message : String
  fields : List (String × LogValue)
  /-- The names of fields that could be there and are not. -/
  unset : List String := []
deriving DecidableEq, Repr

/-- The names of all fields that lines of this kind have. The message is one of
    them. -/
def LogLine.fieldNames (l : LogLine) : List String :=
  "message" :: l.fields.map Prod.fst ++ l.unset

/-- The part of the program that tells events. -/
def Event.logTarget : String := "servicevisor::subscribers::log"

/-- A part of the program that tells of the lifecycle without an event. -/
def LogLine.lifecycleTarget : String := "servicevisor::core::lifecycle"

/-- The name of the subscriber that writes the log. -/
def Event.logWriterName : String := "log-writer"

/-- What stands for a name or a reason that is not given. -/
def Event.missing : String := "-"

/-- The line of an event. -/
def Event.logLine (e : Event) : LogLine :=
  let name := LogValue.text (e.integration.getD missing)
  let why := LogValue.text (e.reason.getD missing)
  let seq := ("seq", LogValue.number e.seq)
  let line (level : LogLevel) (message : String) (fields : List (String × LogValue)) : LogLine :=
    { level, target := logTarget, message, fields }
  match e.kind with
  | .serverRegistered => line .info "server registered" [("integration", name), seq]
  | .dependencyAttached => line .info "dependency attached" [("integration", name), seq]
  | .serviceStarting => line .info "service starting" [("integration", name), seq]
  | .shutdownRequested => line .info "shutdown requested" [("reason", why), seq]
  | .serverFailed => line .error "server failed" [("integration", name), ("reason", why), seq]
  | .serverExited => line .warn "server exited before shutdown" [("integration", name), seq]
  | .serviceStopping => line .info "service stopping" [seq]
  | .serverStopped => line .info "server stopped" [("integration", name), seq]
  | .dependencyClosed => line .info "dependency closed" [("integration", name), seq]
  | .closeFailed => line .warn "close failed" [("integration", name), ("reason", why), seq]
  | .stopFailed => line .error "stop failed" [("reason", why), seq]
  | .serviceStopped => line .info "service stopped" [seq]
  | .healthChecked =>
    match e.code with
    | none => { line .debug "health checked" [seq] with unset := ["code"] }
    | some code =>
      if 200 < code then
        line .warn "health checked" [("code", .number code), ("reason", why), seq]
      else line .debug "health checked" [("code", .number code), seq]
  | .subscriberOverflow =>
    line .warn "subscriber overflow" [("subscriber", name), ("reason", why), seq]
  | .subscriberPanicked =>
    line .error "subscriber panicked" [("subscriber", name), ("reason", why), seq]

end Steward
