import GitGateway.Failure
import GitGateway.Http.Authority
import GitGateway.Text.Quoted

/-!
# Errors of backend calls

- `Backend.Error` — the ways in which a call can fail;
- `Error.status?` — the status of an error, which only an answered call has;
- `Error.toFailure` — the error as the head of a chain of failures.
-/

namespace GitGateway.Backend

/-- Why a call to the backend did not succeed. -/
inductive Error where
  /-- No connection, or no answer that can be read. -/
  | transport (cause : Failure)
  /-- The backend answered with a status. -/
  | status (status : Status)
  /-- The configured address is no authority. -/
  | invalidAddress (address : String) (reason : Http.AuthorityError)
  /-- The request could not be addressed to the backend. -/
  | request (cause : Failure)
  /-- The body of a failed answer could not be read. -/
  | body (cause : Failure)
  deriving Repr

namespace Error

/-- The wording of an error. -/
def text : Error → String
  | .transport cause => "backend request failed: " ++ cause.text
  | .status found => "backend returned " ++ found.text
  | .invalidAddress address reason =>
    "invalid backend address " ++ Quoted.render address ++ ": " ++ reason.message
  | .request cause => "failed to build backend request: " ++ cause.text
  | .body cause => "failed to read backend error body: " ++ cause.text

/-- The status of the error, told by its kind alone. -/
def status? : Error → Option Status
  | .status found => some found
  | _ => none

/-- The error as a failure. The reader of a body puts a link of its own above what
went wrong, with the same text. -/
def toFailure (error : Error) : Failure :=
  .wrapped error.text <| match error with
    | .transport cause | .request cause => cause
    | .status found => .status found
    | .invalidAddress _ reason => .plain reason.message
    | .body cause => .wrapped cause.text cause

end Error

end GitGateway.Backend
