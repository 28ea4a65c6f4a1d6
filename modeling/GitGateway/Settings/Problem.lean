import GitGateway.Log.Record
import GitGateway.Settings.Basic
import GitGateway.SocketAddress
import GitGateway.Text.Blank
import GitGateway.Text.Quoted

/-!
# Problems with settings

Settings can be well written and still make no sense. Each check looks at one
field, or at two for the metrics address, and all problems are told at once, in
the order of the checks.
-/

namespace GitGateway.Settings

/-- What is wrong with a setting. -/
inductive Problem where
  /-- A field that must be a socket address is none. -/
  | invalidAddress (field value : String)
  /-- The backend address is blank. -/
  | emptyBackendAddress
  /-- A timeout is zero. -/
  | zeroTimeout (field : String)
  /-- There is no such log level. -/
  | unknownLogLevel (value : String)
  deriving DecidableEq, Repr

/-- A problem in words. -/
def Problem.message : Problem → String
  | .invalidAddress field value =>
    field ++ ": " ++ Quoted.render value ++ " is not a valid socket address"
  | .emptyBackendAddress => "backend.address must not be empty"
  | .zeroTimeout field => field ++ " must be greater than zero"
  | .unknownLogLevel value => "observability.log_level: unknown level " ++ Quoted.render value

/-- One problem if the condition fails. -/
def problemUnless (holds : Bool) (problem : Problem) : List Problem :=
  if holds then [] else [problem]

/-- Whether a text is a socket address. -/
def isSocketAddress (text : String) : Bool :=
  (SocketAddress.ofString? text).isSome

/-- All problems, in order. The metrics address matters only when metrics are on. -/
def problems (settings : Settings) : List Problem :=
  problemUnless (isSocketAddress settings.listener.bindAddress)
    (.invalidAddress "listener.bind_address" settings.listener.bindAddress) ++
  problemUnless (!isBlankText settings.backend.address) .emptyBackendAddress ++
  problemUnless (settings.timeouts.connectSecs != 0) (.zeroTimeout "timeouts.connect_secs") ++
  problemUnless (settings.timeouts.requestSecs != 0) (.zeroTimeout "timeouts.request_secs") ++
  problemUnless (Log.Level.ofName? settings.observability.logLevel).isSome
    (.unknownLogLevel settings.observability.logLevel) ++
  problemUnless
    (!settings.observability.metricsEnabled ||
      isSocketAddress settings.observability.metricsAddress)
    (.invalidAddress "observability.metrics_address" settings.observability.metricsAddress)

/-- Problems in one line. -/
def summary (problems : List Problem) : String :=
  "Validation failed: " ++ ", ".intercalate (problems.map Problem.message)

end GitGateway.Settings
