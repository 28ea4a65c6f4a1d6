/-!
# Log records

What the gateway tells its operator: events, and the spans that events happen in,
each with a level and named fields.
-/

namespace GitGateway.Log

/-- How much a record matters, the least first. -/
inductive Level where
  | trace
  | debug
  | info
  | warn
  | error
  deriving DecidableEq, Repr

namespace Level

/-- The name of a level. -/
def name : Level → String
  | .trace => "trace"
  | .debug => "debug"
  | .info => "info"
  | .warn => "warn"
  | .error => "error"

/-- A level as it stands in a log line. -/
def label : Level → String
  | .trace => "TRACE"
  | .debug => "DEBUG"
  | .info => "INFO"
  | .warn => "WARN"
  | .error => "ERROR"

/-- The place of a level, from `trace` up. -/
def rank : Level → Nat
  | .trace => 0
  | .debug => 1
  | .info => 2
  | .warn => 3
  | .error => 4

/-- Every level. -/
def all : List Level := [.trace, .debug, .info, .warn, .error]

/-- The level of that name, in letters of any case. -/
def ofName? (name : String) : Option Level :=
  all.find? fun level => level.name == name.toLower

end Level

/-- Whether a record opens a span or is an event. -/
inductive Kind where
  | span
  | event
  deriving DecidableEq, Repr

/-- A record with its fields in order. -/
structure Record where
  kind : Kind
  level : Level
  message : String
  fields : List (String × String)
  deriving DecidableEq, Repr

/-- The names under which a record holds anything. Of an event, the message is one. -/
def Record.fieldNames (record : Record) : List String :=
  match record.kind with
  | .span => record.fields.map Prod.fst
  | .event => "message" :: record.fields.map Prod.fst

end GitGateway.Log
