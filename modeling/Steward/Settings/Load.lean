import Steward.Settings
import Steward.Text.Decimal

/-!
# Settings from Variables

Five variables give the five settings, each with a text that stands in for it
when it is not set.

A variable is read as a text in every case: one that is missing is replaced by
the text of its `Entry` and then parsed like a given one. The variables are
looked at in the order of the fields, and the first text that cannot be parsed
is reported by the name of its variable. Only settings that could be read are
validated.

An environment holds bytes. A value that is not UTF-8 counts as missing.

## Main definitions

* `Variables`, `Environment`: Where the texts come from.
* `Entry`: A variable, the text that stands in for it, and how to parse it.
* `Settings.Entry.load`: Reading one variable.
* `Settings.ofVariables`, `Settings.ofEnvironment`: Reading the settings.
-/

namespace Steward

/-- Named texts. -/
abbrev Variables := List (String × String)

/-- Named values as an operating system holds them. -/
abbrev Environment := List (String × ByteArray)

/-- The variables of an environment whose values are texts. -/
def Environment.variables (env : Environment) : Variables :=
  env.filterMap fun (name, value) => (String.fromUTF8? value).map (name, ·)

namespace Settings

/-- A number of events. -/
def parseCapacity (text : String) : Option UInt64 :=
  Text.parseWord? text.toList

/-- The words `true` and `false`, letter by letter. -/
def parseSwitch (text : String) : Option Bool :=
  if text = "true" then some true
  else if text = "false" then some false
  else none

/-- A list of signals. -/
def parseSignals (text : String) : Option Signals :=
  (Signals.parse text.toList).toOption

/-- One setting as it is found among variables. -/
structure Entry (α : Type) where
  key : String
  /-- The text that stands in for a variable that is not set. -/
  fallback : String
  parse : String → Option α

/-- The text of a setting among variables. -/
def Entry.text {α : Type} (e : Entry α) (vars : Variables) : String :=
  (vars.lookup e.key).getD e.fallback

/-- The setting, or the name of the variable that cannot be parsed. -/
def Entry.load {α : Type} (e : Entry α) (vars : Variables) : Except String α :=
  match e.parse (e.text vars) with
  | some a => .ok a
  | none => .error e.key

/-- Where the name of the service is found. -/
def nameEntry : Entry String := ⟨"SERVICE_NAME", "service", some⟩

/-- Where the capacity of the bus is found. -/
def capacityEntry : Entry UInt64 := ⟨"SERVICE_BUS_CAPACITY", "1024", parseCapacity⟩

/-- Where the signals are found. -/
def signalsEntry : Entry Signals :=
  ⟨"SERVICE_SHUTDOWN_SIGNALS", "interrupt,terminate", parseSignals⟩

/-- Where the filter of the log is found. -/
def logLevelEntry : Entry String := ⟨"SERVICE_LOG_LEVEL", "info", some⟩

/-- Where the form of the log is found. -/
def logJsonEntry : Entry Bool := ⟨"SERVICE_LOG_JSON", "false", parseSwitch⟩

/-- Reads every setting, or names the first variable that cannot be parsed. -/
def readEntries (vars : Variables) : Except String Settings := do
  let name ← nameEntry.load vars
  let busCapacity ← capacityEntry.load vars
  let signals ← signalsEntry.load vars
  let logLevel ← logLevelEntry.load vars
  let logJson ← logJsonEntry.load vars
  return { name, busCapacity, signals, logLevel, logJson }

/-- The refusal of a variable that cannot be parsed. -/
def unreadable (key : String) : Failure :=
  (Failure.new "Failed to load service configuration from environment").addFinding
    ⟨"Failed to parse environment variable " ++ key, []⟩

/-- Reads settings from variables and accepts those that are valid. -/
def ofVariables (vars : Variables) : Except Failure Settings :=
  match readEntries vars with
  | .error key => .error (unreadable key)
  | .ok settings =>
    match settings.validate with
    | .error failure => .error failure
    | .ok () => .ok settings

/-- Reads settings from an environment. -/
def ofEnvironment (env : Environment) : Except Failure Settings :=
  ofVariables env.variables

end Settings

end Steward
