import GitGateway.Status.Basic

/-!
# Failures and their causes

A failed call reaches the gateway as a chain: each failure has a text and, it may
be, a cause. Only a few kinds of link matter.

- a status is a link of its own, and the only one that can be recognised as such;
- a sealed status shows the same text, but is held by something else;
- a wrapper has a text of its own and the failure below it as its cause;
- a fault that carries another failure shows that failure's text and has that
  failure's *cause* as its own, so the failure itself is no link of the chain.

`Failure.source?` is the next link below a failure, `Failure.chain` lists the links,
outermost first, and `Failure.status?` is the first of them that is a status.
-/

namespace GitGateway

/-- A failure, with what caused it. -/
inductive Failure where
  | status (status : Status)
  | sealed (status : Status)
  | plain (text : String)
  | wrapped (text : String) (cause : Failure)
  | fault (inner : Failure)
  deriving Repr

namespace Failure

/-- The text of a failure. -/
def text : Failure → String
  | .status found => found.text
  | .sealed found => found.text
  | .plain words => words
  | .wrapped words _ => words
  | .fault inner => inner.text

/-- The link below a failure. -/
def source? : Failure → Option Failure
  | .wrapped _ cause => some cause
  | .fault inner => inner.source?
  | .status _ | .sealed _ | .plain _ => none

/-- The links below a failure, nearest first. -/
def causes : Failure → List Failure
  | .wrapped _ cause => cause :: cause.causes
  | .fault inner => inner.causes
  | .status _ | .sealed _ | .plain _ => []

/-- The links of the chain that starts with a failure. -/
def chain (failure : Failure) : List Failure :=
  failure :: failure.causes

/-- The status that a link itself is. -/
def own? : Failure → Option Status
  | .status found => some found
  | _ => none

/-- The first status in the chain. -/
def status? (failure : Failure) : Option Status :=
  failure.chain.findSome? own?

/-- A failure that may be handed from one thread to another. -/
structure Shared where
  failure : Failure
  deriving Repr

/-- The first status in the chain, which is the same chain. -/
def Shared.status? (shared : Shared) : Option Status :=
  shared.failure.status?

/-- A failure under `times` wrappers of one text. -/
def wrap (text : String) (times : Nat) (failure : Failure) : Failure :=
  times.repeat (.wrapped text) failure

end Failure

end GitGateway
