import GitGateway.Counter
import GitGateway.Log.Record

/-!
# Metrics

What a metrics collector fetches: for each counter its type, and one line a series
with its total. Beside it, the records of how the exporter started.
-/

namespace GitGateway.Metrics

/-- The value of a label between its quotes. What is escaped already stays as it is. -/
def escapeLabel : List Char → List Char
  | '\\' :: '\\' :: rest => '\\' :: '\\' :: escapeLabel rest
  | '\\' :: '"' :: rest => '\\' :: '"' :: escapeLabel rest
  | '\\' :: rest => '\\' :: '\\' :: escapeLabel rest
  | '"' :: rest => '\\' :: '"' :: escapeLabel rest
  | '\n' :: rest => '\\' :: 'n' :: escapeLabel rest
  | c :: rest => c :: escapeLabel rest
  | [] => []

/-- A series with its total. -/
def sample (counter : Counter) (total : Nat) : String :=
  let (name, value) := counter.label
  counter.name ++ "\x7b" ++ name ++ "=\"" ++ String.ofList (escapeLabel value.toList) ++
    "\"\x7d " ++ toString total

/-- The line that tells the type of a counter. -/
def typeLine (name : String) : String :=
  "# TYPE " ++ name ++ " counter"

/-- The lines of one counter, type first, and an empty line behind them. -/
def group (totals : List (Counter × Nat)) (name : String) : List String :=
  typeLine name ::
    (totals.filter fun entry => entry.1.name == name).map (fun entry => sample entry.1 entry.2) ++
    [""]

/-- The lines that a collector fetches. -/
def exposition (totals : List (Counter × Nat)) : List String :=
  (totals.map fun entry => entry.1.name).eraseDups.flatMap (group totals)

/-- The same lines in alphabetical order, without the empty ones. -/
def page (totals : List (Counter × Nat)) : List String :=
  ((exposition totals).filter fun line => !line.isEmpty).mergeSort (· ≤ ·)

/-- The record of an exporter that listens on an address. -/
def listening (address : String) : Log.Record :=
  ⟨.event, .info, "Metrics exporter listening", [("address", address)]⟩

/-- The record of an exporter that could not be started. -/
def failed (address reason : String) : Log.Record :=
  ⟨.event, .error, "Failed to install metrics exporter",
    [("address", address), ("error", reason)]⟩

end GitGateway.Metrics
