import GitGateway.Proofs.Causes
import GitGateway.Proofs.Overload

/-!
# Two ways to the status of an error

An error of a backend call is asked for its status in two ways. Its kind tells it at once; or it
is taken as a failure like any other, and the chain below it is walked.

- `Failure.Layer`: what can stand above a failure and hide nothing of it. One kind of layer has
  the failure as its source, the other lets the source of the failure through as its own;
- `Failure.status?_under`: under any layers a failure keeps its status, unless it *is* one;
- `Backend.Error.status?_toFailure`: where the walk gets to from each kind of error;
- `Backend.Error.status?_agree_iff`: the two ways agree on an error of another kind exactly when
  no failure that is reached from it is a status;
- `Overload.detectors_agree`: the statement about all errors, with what it means for a client.

The two ways do *not* agree on every error: a status below a failed read or a failed connection
is found by the walk, and the kind of the error does not tell it.
-/

namespace GitGateway

namespace Failure

/-! ## Layers -/

/-- Something that stands above a failure and hides nothing of it. -/
inductive Layer where
  /-- A wrapper has the failure as its source, and a text of its own. -/
  | wrapper (text : String)
  /-- What is let through has the text and the source of the failure. -/
  | letThrough
  deriving DecidableEq, Repr

/-- A failure under one layer. -/
def Layer.over : Layer → Failure → Failure
  | .wrapper text, failure => .wrapped text failure
  | .letThrough, failure => .fault failure

/-- A failure under any number of layers, the outermost first. -/
def under (layers : List Layer) (failure : Failure) : Failure :=
  layers.foldr Layer.over failure

/-- A layer is no status. -/
theorem Layer.own?_over (layer : Layer) (failure : Failure) :
    (layer.over failure).own? = none := by
  cases layer with
  | wrapper text => rfl
  | letThrough => rfl

/-- **One layer** leaves the status of what is none itself. A layer that lets the failure through
passes it by, so a status right below it would be lost. -/
theorem Layer.status?_over (layer : Layer) {failure : Failure} (other : failure.own? = none) :
    (layer.over failure).status? = failure.status? := by
  rw [status?_of_own?_eq_none (layer.own?_over failure)]
  cases layer with
  | wrapper text => rfl
  | letThrough =>
    rw [status?_of_own?_eq_none other]
    rfl

theorem own?_under {failure : Failure} (other : failure.own? = none) (layers : List Layer) :
    (under layers failure).own? = none := by
  cases layers with
  | nil => exact other
  | cons layer layers => exact layer.own?_over (under layers failure)

/-- **Any number of layers** leave the status of what is none itself. By induction on the layers:
what is under the others is no status either. -/
theorem status?_under {failure : Failure} (other : failure.own? = none) (layers : List Layer) :
    (under layers failure).status? = failure.status? := by
  induction layers with
  | nil => rfl
  | cons layer layers ih =>
    have below : (under layers failure).own? = none := own?_under other layers
    calc (under (layer :: layers) failure).status?
      _ = (layer.over (under layers failure)).status? := rfl
      _ = (under layers failure).status? := layer.status?_over below
      _ = failure.status? := ih

/-- No status is found exactly where none is reached. -/
theorem status?_eq_none_iff {failure : Failure} :
    failure.status? = none ↔ ∀ n found, failure.link? n ≠ some (.status found) := by
  constructor
  · intro absent n found there
    have present : failure.status? = some found := status?_of_link there
    rw [absent] at present
    cases present
  · intro unreached
    cases found : failure.status? with
    | none => rfl
    | some status =>
      obtain ⟨n, there, -⟩ := exists_link_of_status? found
      exact absurd there (unreached n status)

end Failure

/-! ## Errors of backend calls -/

namespace Backend.Error

/-- An error is no status, of whatever kind it is. -/
theorem own?_toFailure (error : Error) : error.toFailure.own? = none := rfl

/-- **Where the walk gets to** from an error. A body has one more link above its cause, and an
address that cannot be read has a reason, which is the end of the chain. -/
theorem status?_toFailure (error : Error) : error.toFailure.status? = match error with
    | .status found => some found
    | .invalidAddress _ _ => none
    | .transport cause | .request cause | .body cause => cause.status? := by
  cases error with
  | transport cause => exact Failure.status?_of_link (n := 1) rfl
  | status found =>
    have below : (Error.status found).toFailure.link? 1 = some (.status found) := rfl
    exact Failure.status?_of_link below
  | invalidAddress address reason =>
    have below : (Error.invalidAddress address reason).toFailure.link? 1 =
        some (.plain reason.message) := rfl
    exact Failure.status?_of_link below
  | request cause => exact Failure.status?_of_link (n := 1) rfl
  | body cause => exact Failure.status?_of_link (n := 2) rfl

/-- **A status that the kind of an error tells** is the one that the walk finds. -/
theorem status?_toFailure_of_status? {error : Error} {found : Status}
    (h : error.status? = some found) : error.toFailure.status? = some found := by
  rw [status?_toFailure]
  cases error with
  | status told => exact h
  | transport cause | invalidAddress address reason | request cause | body cause => cases h

/-- The kind of an error tells no status but that of an answered call. -/
theorem status?_eq_none {error : Error} (other : ∀ found, error ≠ .status found) :
    error.status? = none := by
  cases error with
  | status found => exact absurd rfl (other found)
  | transport cause | invalidAddress address reason | request cause | body cause => rfl

/-- **Errors of another kind**: the two ways agree exactly when no status is reached. -/
theorem status?_agree_iff {error : Error} (other : ∀ found, error ≠ .status found) :
    error.toFailure.status? = error.status? ↔
      ∀ n found, error.toFailure.link? n ≠ some (.status found) := by
  rw [status?_eq_none other]
  exact Failure.status?_eq_none_iff

end Backend.Error

/-! ## What comes of it -/

namespace Overload

open Failure (Layer)

/-- **The two ways to a status.**

- A status that the kind of an error tells is found by the walk as well.
- On an error of any other kind they agree exactly when no failure that is reached from it, from
  source to source, is a status.
- Where they agree, whoever looks for an overload comes to the same in both ways, and so under
  any layers above the error: the same answer, the same calls on the sink with the same octets,
  the same reports and the same counters. -/
theorem detectors_agree (error : Backend.Error) :
    (∀ found, error.status? = some found → error.toFailure.status? = some found) ∧
    ((∀ found, error ≠ .status found) →
      (error.toFailure.status? = error.status? ↔
        ∀ n found, error.toFailure.link? n ≠ some (.status found))) ∧
    (error.toFailure.status? = error.status? →
      ∀ (layers : List Layer) (σ : Type) (sink : Sink σ) (session : Session σ)
        (operation : Operation) (id : String),
        respond sink session (Subject.chain (error.toFailure.under layers)).status? operation id =
          respond sink session (Subject.call error).status? operation id) := by
  refine ⟨?told, ?others, ?same⟩
  case told =>
    intro found told
    exact Backend.Error.status?_toFailure_of_status? told
  case others =>
    intro other
    exact Backend.Error.status?_agree_iff other
  case same =>
    intro agree layers σ sink session operation id
    have walked : (Subject.chain (error.toFailure.under layers)).status? =
        (Subject.call error).status? := by
      calc (Subject.chain (error.toFailure.under layers)).status?
        _ = (error.toFailure.under layers).status? := rfl
        _ = error.toFailure.status? := Failure.status?_under error.own?_toFailure layers
        _ = error.status? := agree
    rw [walked]

/-- Two bodies that could not be read. Below one of them there is a status, and only the walk
finds it; on the other one the two ways agree, and they do under three layers. -/
theorem unread_bodies_are_told_apart :
    let limit : Status := ⟨.resourceExhausted, "", [.limitReached "" 0]⟩
    let above : Backend.Error := .body (.wrapped "read" (.status limit))
    let plain : Backend.Error := .body (.wrapped "read" (.plain "connection reset"))
    let layers : List Layer := [.letThrough, .wrapper "call", .letThrough]
    (∀ found, above ≠ .status found) ∧ (∀ found, plain ≠ .status found) ∧
      above.toFailure.status? = some limit ∧ above.toFailure.status? ≠ above.status? ∧
      plain.toFailure.status? = plain.status? ∧
      respond Sink.memory (Session.start ())
          (Subject.chain (plain.toFailure.under layers)).status? .uploadPack "abc" =
        respond Sink.memory (Session.start ()) (Subject.call plain).status? .uploadPack "abc" := by
  intro limit above plain layers
  have otherAbove : ∀ found, above ≠ .status found := nofun
  have otherPlain : ∀ found, plain ≠ .status found := nofun
  have reached : above.toFailure.link? 3 = some (.status limit) := rfl
  have walked : above.toFailure.status? = some limit := Failure.status?_of_link reached
  have differ : above.toFailure.status? ≠ above.status? := by
    intro same
    exact ((detectors_agree above).2.1 otherAbove).mp same 3 limit reached
  -- the chain of the other one has four links and none of them is a status
  have unreached : ∀ n found, plain.toFailure.link? n ≠ some (.status found) := by
    intro n found
    match n with
    | 0 | 1 | 2 | 3 => nofun
    | n + 4 => nofun
  have agree := ((detectors_agree plain).2.1 otherPlain).mpr unreached
  exact ⟨otherAbove, otherPlain, walked, differ, agree,
    (detectors_agree plain).2.2 agree layers Unit Sink.memory (Session.start ()) .uploadPack "abc"⟩

end Overload

end GitGateway
