import Steward.Health.Report
import Steward.Settings.Load

/-!
# The Ticker

An example of a service: a server that ticks, with a cache behind it.

Every tick is a request that the server answers with the help of the cache. The
cache counts the requests, and when it has seen too many it reports itself ill.
Beside that the health of the service is asked for at once and then every two
seconds. A signal ends the service: the server drains, the cache is flushed.

All of them print what they do. The service prints nothing, as its log is
switched off, and one that cannot be run with its settings says why.

## Main definitions

* `Ticker`: How many requests there were.
* `Ticker.report`: The health of the example.
* `Ticker.run`: What is printed.
-/

namespace Steward

/-- The example, after a number of requests. -/
structure Ticker where
  requests : Nat := 0
deriving DecidableEq, Repr

/-- What a run of the example prints. -/
structure TickerRun where
  /-- What is printed up to the first request and the first report, in
      alphabetical order, as the two come at the same time. -/
  before : List String := []
  /-- What is printed when the signal has come. -/
  after : List String := []
  /-- What is printed about a failure. -/
  failure : String := ""
  /-- The code the program exits with. -/
  exitCode : Nat := 0
deriving DecidableEq, Repr

namespace Ticker

/-- A request comes. -/
def tick (t : Ticker) : Ticker :=
  ⟨t.requests + 1⟩

/-- How many requests the cache can take. -/
def cacheLimit : Nat := 5

/-- The health of the cache. -/
def cacheHealth (t : Ticker) : Health :=
  if cacheLimit < t.requests then
    .unavailable (.plain ("cache: eviction storm after " ++ toString t.requests ++ " hits"))
  else .healthy

/-- The health of the example: the server is always well. -/
def report (t : Ticker) : HealthReport :=
  .ofAnswers [.healthy, t.cacheHealth]

/-- What is printed for a request. -/
def requestLine (t : Ticker) : String :=
  "[ticker] request #" ++ toString t.requests

/-- What is printed for a report. -/
def healthLine (t : Ticker) : String :=
  "[health] " ++ t.report.body

/-- What is printed when the service stops, by the server and then by the cache. -/
def stopLines (t : Ticker) : List String :=
  ["[ticker] drained after " ++ toString t.requests ++ " requests",
    "[cache] flushed " ++ toString t.requests ++ " entries"]

/-- A run of the example that is ended by a signal after the first request, with
    settings from the environment. -/
def run (vars : Environment) : TickerRun :=
  match Settings.ofEnvironment vars with
  | .error f => { failure := "Error: " ++ f.text ++ "\n", exitCode := 1 }
  | .ok _ =>
    let t := tick {}
    { before := [t.healthLine, t.requestLine], after := t.stopLines }

end Ticker

end Steward
