/-!
# Settings

What an operator can set, in four sections. Every setting has a default, and the
defaults make a gateway that runs.
-/

namespace GitGateway

namespace Settings

/-- Where the gateway listens. -/
structure Listener where
  bindAddress : String := "0.0.0.0:8080"
  deriving DecidableEq, Repr

/-- Where requests go. -/
structure Backend where
  address : String := "127.0.0.1:8075"
  deriving DecidableEq, Repr

/-- How long things may take, in seconds. -/
structure Timeouts where
  connectSecs : Nat := 5
  requestSecs : Nat := 600
  deriving DecidableEq, Repr

/-- What is logged and measured. -/
structure Observability where
  logLevel : String := "info"
  metricsEnabled : Bool := false
  metricsAddress : String := "0.0.0.0:9090"
  deriving DecidableEq, Repr

end Settings

/-- All settings. -/
structure Settings where
  listener : Settings.Listener := {}
  backend : Settings.Backend := {}
  timeouts : Settings.Timeouts := {}
  observability : Settings.Observability := {}
  deriving DecidableEq, Repr

end GitGateway
