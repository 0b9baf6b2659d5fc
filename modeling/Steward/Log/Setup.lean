import Steward.Log.Filter
import Steward.Settings
import Steward.Text.Quoted

/-!
# Setting the Log Up

From lines as data to what is written.

The log of a program is set up once, by the first settings that ask for it;
later ones are passed over. The filter comes from the environment if one is
given there that can be read, else from the settings, and if neither can be read
lines up to `info` pass. The settings also say whether a line is written for
people or as a JSON object.

A program that has a log of its own keeps it. Setting up only tells that, and
all lines go where they went before.

## Main definitions

* `LogLine.written`: A line for people.
* `LogSetup`: A filter and a form.
* `LogSetup.ofSettings`: The setup that settings ask for.
* `logLines`: The lines that come about.
-/

namespace Steward

/-- A value in a line for people. -/
def LogValue.written : LogValue → String
  | .text s => Text.quoted s
  | .bare s => s
  | .number n => toString n
  | .truth b => toString b

/-- A line for people. -/
def LogLine.written (l : LogLine) : String :=
  l.level.name ++ " " ++ l.target ++ ": " ++ l.message ++
    String.join (l.fields.map fun (k, v) => " " ++ k ++ "=" ++ v.written)

/-- The part of the program that tells how the log was set up. -/
def LogLine.setupTarget : String := "servicevisor::logging"

/-- The line that tells that the log was set up. -/
def LogLine.initialized (s : Settings) : LogLine :=
  { level := .debug
    target := setupTarget
    message := "logging initialized"
    fields := [("service", .bare s.name), ("json", .truth s.logJson)] }

/-- The line that tells that the program keeps the log it had. -/
def LogLine.kept : LogLine :=
  { level := .debug
    target := setupTarget
    message := "global tracing subscriber already set, keeping it"
    fields := [] }

/-- How a log is written. -/
structure LogSetup where
  filter : LogFilter
  /-- Whether lines are JSON objects. -/
  json : Bool
deriving DecidableEq, Repr

/-- A line as it was written. -/
inductive WrittenLine where
  /-- It was written for people. -/
  | text (s : String)
  /-- It was written as a JSON object. -/
  | object (line : LogLine)
deriving DecidableEq, Repr

namespace LogSetup

/-- The setup that settings ask for, where the environment may give a filter. -/
def ofSettings (s : Settings) (given : Option String) : LogSetup where
  filter := ((given.bind LogFilter.parse?).or (LogFilter.parse? s.logLevel)).getD
    [{ limit := some .info }]
  json := s.logJson

/-- What is written of lines. -/
def write (l : LogSetup) (lines : List LogLine) : List WrittenLine :=
  (lines.filter l.filter.passes).map fun line =>
    if l.json then .object line else .text line.written

end LogSetup

/-- The lines that come about when a log is set up with settings, one after the
    other, and events are told then. Only the first settings count. `occupied`
    says that the program has a log already. -/
def logLines (settings : List Settings) (occupied : Bool) (events : List Event) : List LogLine :=
  (settings.head?.toList.flatMap fun s =>
    (if occupied then [LogLine.kept] else []) ++ [LogLine.initialized s]) ++
    events.map Event.logLine

/-- What is written when a log is set up like that. Without settings there is no
    log. -/
def writtenLines (settings : List Settings) (given : Option String) (events : List Event) :
    List WrittenLine :=
  match settings with
  | [] => []
  | s :: _ => (LogSetup.ofSettings s given).write (logLines settings false events)

end Steward
