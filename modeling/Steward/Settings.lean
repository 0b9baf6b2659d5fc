import Steward.Failure
import Steward.Signal

/-!
# Settings

What a service is told about itself before it starts.

The settings are those of the service alone; the participants have their own.
They can be filled in by hand or read from named variables (`Settings.Load`).
Either way `Settings.validate` says whether the service can be run with them,
and reports every violation at once.

## Main definitions

* `Settings`: The settings.
* `Settings.standard`: What holds unless said otherwise.
* `Settings.violations`: Everything that is wrong with settings.
* `Settings.validate`: The refusal that reports it.

## Theorems

* `Settings.validate_eq_ok_iff`: Settings are accepted exactly when nothing is
  wrong with them.
-/

namespace Steward

/-- The settings of a service. -/
structure Settings where
  /-- The name of the service, used in its log. -/
  name : String
  /-- How many events the bus keeps for receivers that lag behind. -/
  busCapacity : UInt64
  /-- The signals that end a running service. -/
  signals : Signals
  /-- The filter of the log, unless the environment gives one. -/
  logLevel : String
  /-- Whether log lines are JSON objects. -/
  logJson : Bool
deriving DecidableEq

namespace Settings

/-- What holds unless said otherwise. -/
def standard : Settings where
  name := "service"
  busCapacity := 1024
  signals := .standard
  logLevel := "info"
  logJson := false

/-- The capacity that the bus is made with, which is at least one. -/
def usedCapacity (s : Settings) : UInt64 :=
  max s.busCapacity 1

/-- The path to a setting. -/
def pathTo (setting : String) : List String :=
  ["Config", setting]

/-- Everything that is wrong with settings, in the order of the fields. -/
def violations (s : Settings) : List Finding :=
  (if Text.isAllBlank s.name.toList then
    [⟨"Service name must be set and not be empty", pathTo "name"⟩] else []) ++
  (if s.busCapacity = 0 then
    [⟨"Event bus capacity must be at least 1", pathTo "bus_capacity"⟩] else []) ++
  (if s.signals.isEmpty then
    [⟨"At least one shutdown signal must be configured", pathTo "shutdown_signals"⟩] else [])

/-- The refusal of settings with these violations. -/
def refusal (violations : List Finding) : Failure :=
  (Failure.new "Failed to validate service configuration").addFindings violations

/-- Accepts settings that have no violation. -/
def validate (s : Settings) : Except Failure Unit :=
  if s.violations.isEmpty then .ok () else .error (refusal s.violations)

/-- Settings are accepted exactly when nothing is wrong with them. -/
theorem validate_eq_ok_iff {s : Settings} : s.validate = .ok () ↔ s.violations = [] := by
  simp [validate]

/-- The standard settings are accepted. -/
theorem validate_standard : standard.validate = .ok () :=
  validate_eq_ok_iff.2 (by decide +kernel)

end Settings

end Steward
