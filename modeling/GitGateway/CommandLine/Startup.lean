import GitGateway.CommandLine.Arguments
import GitGateway.CommandLine.ErrorText
import GitGateway.Log.Entry
import GitGateway.Metrics

/-!
# A run of the program

What the program prints and how it exits, given what it finds: its arguments, the
settings file, the environment and whether addresses can be bound.

- `Site` — what the program finds;
- `Startup.entries`, `Startup.told`, `Startup.stopped` — what is logged before and after
  serving;
- `run` — the report of a run.

Start-up goes step by step, and each step logs before the next can fail: settings,
log filter, metrics, the listening address, the client. After that the program
serves until it is told to stop.
-/

namespace GitGateway.CommandLine

open Log (Entry)
open Settings (LoadError)

/-! ## Log entries -/

/-- An entry at the level of general information. -/
def info (part message : String) (fields : List (String × String) := []) : Entry where
  part := part
  record := ⟨.event, .info, message, fields⟩

/-- The part of the program that starts it. -/
def mainPart : String := Log.Filter.ownTarget

/-- The part of the program that serves. -/
def serverPart : String := mainPart ++ "::http::server"

/-- The part of the program that exports metrics. -/
def metricsPart : String := mainPart ++ "::observability::metrics"

/-- The part of the program that waits for signals. -/
def signalsPart : String := mainPart ++ "::lifecycle::signals"

/-! ## Starting -/

/-- What a run finds around it. -/
structure Site where
  /-- The content of a file. -/
  file : String → Except SystemFault Bytes
  /-- The log filter in the environment. -/
  environment : Option String
  /-- Binds the address of the metrics exporter. -/
  bindMetrics : SocketAddress → Except SystemFault Unit
  /-- Binds the listening address; the result has the port that was chosen. -/
  bindListener : SocketAddress → Except SystemFault SocketAddress
  /-- Whether the program is told to stop once it serves. -/
  stops : Bool

namespace Startup

/-- What is logged of the exporter, if metrics are asked for. -/
def exporterEntries (site : Site) (watch : Settings.Observability) : List Entry :=
  if watch.metricsEnabled then
    match SocketAddress.ofString? watch.metricsAddress with
    | none =>
      [{ part := mainPart
         record := ⟨.event, .error, "Failed to parse metrics address",
          [("metrics_address", watch.metricsAddress), ("error", "invalid socket address syntax")]⟩ }]
    | some address =>
      match site.bindMetrics address with
      | .ok () => [{ part := metricsPart, record := Metrics.listening address.text }]
      | .error fault =>
        [{ part := metricsPart
           record := Metrics.failed address.text
            ("failed to create HTTP listener: " ++ fault.text) }]
  else []

/-- Binds the listening address of the settings, or tells the error. -/
def listen (site : Site) (settings : Settings) : Except String SocketAddress :=
  match SocketAddress.ofString? settings.listener.bindAddress with
  | none => .error (shownFailure ⟨.invalidInput, "invalid socket address"⟩)
  | some address => (site.bindListener address).mapError shownFault

/-- What is logged up to the listening address. -/
def opening (site : Site) (settings : Settings) : List Entry :=
  [info mainPart (programName ++ " v0.1.0 starting"),
    info mainPart "Configuration loaded"
      [("bind_address", settings.listener.bindAddress),
        ("backend", settings.backend.address),
        ("request_timeout_secs", toString settings.timeouts.requestSecs)]] ++
  exporterEntries site settings.observability

/-- What is logged up to the first request, and the error that ends the program
before it. -/
def entries (site : Site) (settings : Settings) : List Entry × Option String :=
  let sofar := opening site settings
  match listen site settings with
  | .error shown => (sofar, some shown)
  | .ok bound =>
    let sofar := sofar ++ [info mainPart "Listening for connections" [("address", bound.text)]]
    match Http.Authority.check settings.backend.address with
    | .error reason => (sofar, some (shownAddressError settings.backend.address reason))
    | .ok () =>
      (sofar ++ [info serverPart "HTTP server starting"
        [("address", bound.text), ("backend", settings.backend.address)]], none)

/-- What is logged when the program is told to stop. -/
def told : List Entry :=
  [info signalsPart "Shutdown signal received"]

/-- What is logged when all requests are done after that. -/
def stopped : List Entry :=
  [info serverPart "HTTP server stopped", info mainPart "Shutdown complete"]

end Startup

/-! ## The run -/

/-- The settings of a run with the given settings file. -/
def load (site : Site) : Option String → Except LoadError Settings
  | none => .ok {}
  | some path => Settings.ofFile (site.file path)

/-- The log filter of a run. -/
def filterOf (site : Site) (settings : Settings) : Log.Filter :=
  Log.Filter.install site.environment settings.observability.logLevel

/-- What a run prints to standard output, plainly and then as a log, what it prints to
standard error, and the code it exits with if it ends. -/
structure Report where
  printed : List String := []
  logged : List String := []
  error : String := ""
  exit : Option Nat
  deriving DecidableEq, Repr

/-- A run with its settings. -/
def start (site : Site) (settings : Settings) : Report :=
  let filter := filterOf site settings
  match Startup.entries site settings with
  | (entries, some shown) =>
    { logged := filter.lines entries, error := errorText shown, exit := some 1 }
  | (entries, none) =>
    if site.stops then
      { logged := filter.lines (entries ++ Startup.told ++ Startup.stopped), exit := some 0 }
    else { logged := filter.lines entries, exit := none }

/-- The settings of a run, if it gets so far as to have any. -/
def settings? (site : Site) (arguments : List String) : Option Settings :=
  match Arguments.parse arguments with
  | .ok (.run config) => (load site config).toOption
  | _ => none

/-- A run of the program. -/
def run (site : Site) (arguments : List String) : Report :=
  match Arguments.parse arguments with
  | .error error => { error := error.text, exit := some 2 }
  | .ok .help => { printed := Arguments.helpLines, exit := some 0 }
  | .ok (.run config) =>
    match load site config with
    | .error error => { error := errorText (shownLoadError error), exit := some 1 }
    | .ok settings => start site settings

end GitGateway.CommandLine
