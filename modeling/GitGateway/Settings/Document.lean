import GitGateway.Settings.Basic
import GitGateway.Toml.Item

/-!
# Settings from a document

A settings document has a table for each section, and all of it is optional. A
section may also be written as an array of its values in the order of its fields.
Keys that mean nothing here are left alone.

- `Settings.Fields` — the fields that a section holds, however it is written;
- `Settings.ofDocument?` — the settings of a document, `none` if a value does not fit
  its field.
-/

namespace GitGateway.Settings

open Toml (Item Entries)

/-- What a section says: values by name or by place, or nothing. -/
inductive Fields where
  | named (entries : Entries)
  | placed (items : List Item)

namespace Fields

/-- The fields of a section. A section that is missing says nothing, and neither
does a date or a time, which has no fields. -/
def ofSection? : Option Item → Option Fields
  | none => some (.named [])
  | some .dateTime => some (.named [])
  | some (.table _ entries) => some (.named entries)
  | some (.array items) => some (.placed items)
  | some _ => none

/-- The value of a field, told by its name and its place. -/
def get? (fields : Fields) (name : String) (place : Nat) : Option Item :=
  match fields with
  | .named entries => entries.get? name
  | .placed items => items[place]?

/-- A field as it is read, or its default if it is not there. -/
def read? {α : Type} (fields : Fields) (name : String) (place : Nat) (ofItem? : Item → Option α)
    (default : α) : Option α :=
  match fields.get? name place with
  | none => some default
  | some item => ofItem? item

end Fields

/-- A text field. -/
def text? : Item → Option String
  | .string value => some value
  | _ => none

/-- A field that holds a number of seconds. -/
def seconds? : Item → Option Nat
  | .integer (.ofNat n) => some n
  | _ => none

/-- A field that is on or off. -/
def switch? : Item → Option Bool
  | .boolean value => some value
  | _ => none

/-- The listener section. -/
def Listener.ofFields? (fields : Fields) : Option Listener := do
  let defaults : Listener := {}
  return { bindAddress := ← fields.read? "bind_address" 0 text? defaults.bindAddress }

/-- The backend section. -/
def Backend.ofFields? (fields : Fields) : Option Backend := do
  let defaults : Backend := {}
  return { address := ← fields.read? "address" 0 text? defaults.address }

/-- The timeouts section. -/
def Timeouts.ofFields? (fields : Fields) : Option Timeouts := do
  let defaults : Timeouts := {}
  return {
    connectSecs := ← fields.read? "connect_secs" 0 seconds? defaults.connectSecs
    requestSecs := ← fields.read? "request_secs" 1 seconds? defaults.requestSecs }

/-- The observability section. -/
def Observability.ofFields? (fields : Fields) : Option Observability := do
  let defaults : Observability := {}
  return {
    logLevel := ← fields.read? "log_level" 0 text? defaults.logLevel
    metricsEnabled := ← fields.read? "metrics_enabled" 1 switch? defaults.metricsEnabled
    metricsAddress := ← fields.read? "metrics_address" 2 text? defaults.metricsAddress }

/-- The settings of a document. -/
def ofDocument? (root : Entries) : Option Settings := do
  return {
    listener := ← (Fields.ofSection? (root.get? "listener")).bind Listener.ofFields?
    backend := ← (Fields.ofSection? (root.get? "backend")).bind Backend.ofFields?
    timeouts := ← (Fields.ofSection? (root.get? "timeouts")).bind Timeouts.ofFields?
    observability :=
      ← (Fields.ofSection? (root.get? "observability")).bind Observability.ofFields? }

end GitGateway.Settings
