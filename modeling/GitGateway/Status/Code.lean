/-!
# Status codes

The canonical codes that a backend answers with.

- `Code.name` — a code as it is written in texts;
- `Code.spelling` — a code as a status spells it, which follows from its identifier;
- `Code.ofName` — the code of a spelling. One that is not known reads as `unknown`.

Names and spellings are the same (`Code.spelling_eq_name`), so a code that is written
out can be read again.
-/

namespace GitGateway

/-- The canonical status codes. -/
inductive Code where
  | ok
  | cancelled
  | unknown
  | invalidArgument
  | deadlineExceeded
  | notFound
  | alreadyExists
  | permissionDenied
  | resourceExhausted
  | failedPrecondition
  | aborted
  | outOfRange
  | unimplemented
  | internal
  | unavailable
  | dataLoss
  | unauthenticated
  deriving DecidableEq, Repr

namespace Code

/-- Every code. -/
def all : List Code :=
  [.ok, .cancelled, .unknown, .invalidArgument, .deadlineExceeded, .notFound, .alreadyExists,
    .permissionDenied, .resourceExhausted, .failedPrecondition, .aborted, .outOfRange,
    .unimplemented, .internal, .unavailable, .dataLoss, .unauthenticated]

/-- The name of a code, as it is written. -/
def name : Code → String
  | .ok => "OK"
  | .cancelled => "CANCELLED"
  | .unknown => "UNKNOWN"
  | .invalidArgument => "INVALID_ARGUMENT"
  | .deadlineExceeded => "DEADLINE_EXCEEDED"
  | .notFound => "NOT_FOUND"
  | .alreadyExists => "ALREADY_EXISTS"
  | .permissionDenied => "PERMISSION_DENIED"
  | .resourceExhausted => "RESOURCE_EXHAUSTED"
  | .failedPrecondition => "FAILED_PRECONDITION"
  | .aborted => "ABORTED"
  | .outOfRange => "OUT_OF_RANGE"
  | .unimplemented => "UNIMPLEMENTED"
  | .internal => "INTERNAL"
  | .unavailable => "UNAVAILABLE"
  | .dataLoss => "DATA_LOSS"
  | .unauthenticated => "UNAUTHENTICATED"

/-- A code as it is declared. -/
def identifier : Code → String
  | .ok => "Ok"
  | .cancelled => "Cancelled"
  | .unknown => "Unknown"
  | .invalidArgument => "InvalidArgument"
  | .deadlineExceeded => "DeadlineExceeded"
  | .notFound => "NotFound"
  | .alreadyExists => "AlreadyExists"
  | .permissionDenied => "PermissionDenied"
  | .resourceExhausted => "ResourceExhausted"
  | .failedPrecondition => "FailedPrecondition"
  | .aborted => "Aborted"
  | .outOfRange => "OutOfRange"
  | .unimplemented => "Unimplemented"
  | .internal => "Internal"
  | .unavailable => "Unavailable"
  | .dataLoss => "DataLoss"
  | .unauthenticated => "Unauthenticated"

/-- An identifier in capitals, with an underscore in front of each capital that does not
start it. -/
def capitals : List Char → List Char
  | [] => []
  | first :: rest =>
    first.toUpper ::
      rest.flatMap fun c => if c.isUpper then ['_', c] else [c.toUpper]

/-- A code as a status spells it. -/
def spelling (code : Code) : String :=
  String.ofList (capitals code.identifier.toList)

/-- The code of that spelling, `unknown` if there is none. -/
def ofName (name : String) : Code :=
  (all.find? fun code => code.spelling == name).getD .unknown

/-- The code that stands in for an answer which carries none. -/
def ofHttpStatus (status : Nat) : Code :=
  match status with
  | 400 => .invalidArgument
  | 401 => .unauthenticated
  | 403 => .permissionDenied
  | 404 => .notFound
  | 409 => .aborted
  | 429 => .resourceExhausted
  | 501 => .unimplemented
  | 502 | 503 => .unavailable
  | 504 => .deadlineExceeded
  | _ => if 500 ≤ status ∧ status ≤ 599 then .internal else .unknown

theorem mem_all (code : Code) : code ∈ all := by
  cases code <;> decide

/-- A code is spelled by its name. -/
theorem spelling_eq_name (code : Code) : code.spelling = code.name := by
  cases code <;> decide

end Code

end GitGateway
