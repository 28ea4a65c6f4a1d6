import GitGateway.Status.Code

/-!
# Statuses

A status is what the backend answers a call with that it did not carry out: a
code, a message and a list of details.
-/

namespace GitGateway

/-- A detail of a status. -/
inductive Detail where
  /-- A limit on concurrency or resources was reached. -/
  | limitReached (message : String) (retryAfter : Nat)
  /-- A detail of any other type. -/
  | other
  deriving DecidableEq, Repr

/-- Whether a detail says that a limit was reached. -/
def Detail.isLimit : Detail → Bool
  | .limitReached .. => true
  | .other => false

/-- An answer to a call that was not carried out. -/
structure Status where
  code : Code
  message : String
  details : List Detail
  deriving DecidableEq, Repr

namespace Status

/-- Whether the backend had no capacity left: some detail says so. -/
def isOverloaded (status : Status) : Bool :=
  status.details.any Detail.isLimit

/-- A status in words. -/
def text (status : Status) : String :=
  status.code.name ++ ": " ++ status.message

end Status

end GitGateway
