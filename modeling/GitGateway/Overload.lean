import GitGateway.BusyNotice
import GitGateway.CorrelationId
import GitGateway.Counter
import GitGateway.Log.Record
import GitGateway.Status.Basic

/-!
# Overload

When a call fails because the backend has no capacity left, its client is sent a
busy notice instead of an error. `Overload.respond` does that for the status of a
failed call:

- no status, or one that is not an overload, is none of its business: nothing is
  written, reported or counted;
- else the notice with the bounded ID is sent. It is counted when all of it went
  out, and a write that failed is reported; it never becomes an error of its own.
-/

namespace GitGateway.Overload

/-- A busy notice that did not go out to its end. -/
structure Report where
  /-- The ID as the client was shown it. -/
  id : String
  operation : Operation
  error : WriteError
  deriving DecidableEq, Repr

/-- A report as a log record. -/
def Report.record (report : Report) : Log.Record where
  kind := .event
  level := .error
  message := "Failed to write overload response"
  fields := [("correlation_id", report.id), ("operation", report.operation.service),
    ("error", report.error.message)]

/-- What came of looking for an overload. -/
structure Outcome (σ : Type) where
  detected : Bool
  session : Session σ
  reports : List Report
  counters : List Counter

variable {σ : Type}

/-- Sends a busy notice if the status of a failed call is an overload. -/
def respond (sink : Sink σ) (session : Session σ) (status : Option Status)
    (operation : Operation) (id : String) : Outcome σ :=
  if status.any Status.isOverloaded then
    let shown := CorrelationId.bounded id
    match BusyNotice.write sink session operation shown with
    | (.ok (), session) => ⟨true, session, [], [.busyNotice operation]⟩
    | (.error e, session) => ⟨true, session, [⟨shown, operation, e⟩], []⟩
  else
    ⟨false, session, [], []⟩

end GitGateway.Overload
