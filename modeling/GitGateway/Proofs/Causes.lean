import GitGateway.Failure
import GitGateway.Overload

/-!
# Walking a chain of failures

The status of a failure is looked for link by link, from the failure itself down its sources,
and the first link that is a status is the answer.

- `Failure.Walk`: the walk as a relation, one rule for each thing that a link can be. A walk
  that has an outcome has come to its end, so `Failure.walk_iff` says that every walk ends,
  and with what;
- `Failure.link?`: the link that is so many sources below a failure;
- `Failure.status?_of_link`: whatever stands above a link has the status of the link, since what
  has a source is no status;
- `Failure.status?_is_first`: the statement about all chains, with what follows for wrappers,
  for a status that is sealed, and for a fault that carries another failure.

A status has no source, so nothing stands below one. That a status further down is never
preferred is not left to that: it is said of the first place at which one stands.
-/

namespace GitGateway.Failure

/-! ## Links -/

/-- The links below a failure are its source and the links below that. -/
theorem causes_eq (failure : Failure) :
    failure.causes = (failure.source?.map chain).getD [] := by
  induction failure with
  | status found => rfl
  | sealed found => rfl
  | plain words => rfl
  | wrapped words cause _ => rfl
  | fault inner ih => exact ih

/-- Every chain comes to an end. -/
theorem length_causes_lt {failure cause : Failure} (h : failure.source? = some cause) :
    cause.causes.length < failure.causes.length := by
  rw [failure.causes_eq, h]
  exact Nat.lt_succ_self _

/-- What holds of a failure if it holds of its source holds of every failure. -/
theorem sourceInduction {p : Failure → Prop}
    (step : ∀ failure, (∀ cause, failure.source? = some cause → p cause) → p failure)
    (failure : Failure) : p failure := by
  induction hn : failure.causes.length using Nat.strongRecOn generalizing failure with
  | _ n ih =>
    refine step failure fun cause below => ?_
    exact ih cause.causes.length (hn ▸ length_causes_lt below) cause rfl

/-- What has a source is no status. -/
theorem own?_eq_none_of_source? {failure cause : Failure} (h : failure.source? = some cause) :
    failure.own? = none := by
  cases failure with
  | status found => cases h
  | sealed found | plain words | wrapped words cause | fault inner => rfl

theorem own?_eq_some_iff {failure : Failure} {found : Status} :
    failure.own? = some found ↔ failure = .status found := by
  cases failure <;> simp [own?]

/-- A link that is a status is the answer. -/
theorem status?_of_own? {failure : Failure} {found : Status} (h : failure.own? = some found) :
    failure.status? = some found := by
  rw [status?, chain, List.findSome?_cons, h]

/-- A link that is none leaves the answer to its source. -/
theorem status?_of_own?_eq_none {failure : Failure} (h : failure.own? = none) :
    failure.status? = failure.source?.bind status? := by
  rw [status?, chain, List.findSome?_cons, h, causes_eq]
  cases failure.source? with
  | none => rfl
  | some cause => rfl

/-! ## The walk -/

/-- A walk down the links of a chain. It is at a link, or past the last one. -/
inductive Walk : Option Failure → Option Status → Prop where
  | ended : Walk none none
  | found {failure : Failure} {found : Status} (h : failure.own? = some found) :
      Walk (some failure) (some found)
  | on {failure : Failure} {outcome : Option Status} (h : failure.own? = none)
      (later : Walk failure.source? outcome) : Walk (some failure) outcome

/-- Every walk ends, with the status of the failure that it starts from. -/
theorem walk_status? (failure : Failure) : Walk (some failure) failure.status? := by
  induction failure using sourceInduction with
  | step failure ih =>
    cases h : failure.own? with
    | some found =>
      rw [status?_of_own? h]
      exact .found h
    | none =>
      rw [status?_of_own?_eq_none h]
      refine .on h ?_
      cases below : failure.source? with
      | none => exact .ended
      | some cause => exact ih cause below

/-- A walk ends in one way. -/
theorem Walk.outcome_eq {start : Option Failure} {outcome : Option Status}
    (h : Walk start outcome) : outcome = start.bind status? := by
  induction h with
  | ended => rfl
  | found h => exact (status?_of_own? h).symm
  | on h later ih => exact ih.trans (status?_of_own?_eq_none h).symm

/-- **Every walk ends**, and in one way. -/
theorem walk_iff {failure : Failure} {outcome : Option Status} :
    Walk (some failure) outcome ↔ outcome = failure.status? := by
  constructor
  · exact Walk.outcome_eq
  · rintro rfl
    exact walk_status? failure

/-! ## Places in a chain -/

/-- The link that is `n` sources below a failure, which itself is at 0. -/
def link? : Failure → Nat → Option Failure
  | failure, 0 => some failure
  | failure, n + 1 => failure.source?.bind fun cause => cause.link? n

theorem link?_succ {failure cause : Failure} (h : failure.source? = some cause) (n : Nat) :
    failure.link? (n + 1) = cause.link? n := by
  rw [link?, h, Option.bind_some]

/-- **Whatever stands above a link has its status.** -/
theorem status?_of_link {cover failure : Failure} {n : Nat} (h : cover.link? n = some failure) :
    cover.status? = failure.status? := by
  induction n generalizing cover with
  | zero =>
    obtain rfl := Option.some.inj h
    rfl
  | succ n ih =>
    obtain ⟨cause, below, h⟩ := Option.bind_eq_some_iff.mp h
    rw [status?_of_own?_eq_none (own?_eq_none_of_source? below), below]
    exact ih h

/-- The status of a failure is a link of the chain, and none of those above it is a status. -/
theorem exists_link_of_status? {failure : Failure} {found : Status}
    (h : failure.status? = some found) :
    ∃ n, failure.link? n = some (.status found) ∧
      ∀ m < n, ∀ other, failure.link? m ≠ some (.status other) := by
  induction failure using sourceInduction with
  | step failure ih =>
    cases own : failure.own? with
    | some here =>
      obtain rfl := Option.some.inj ((status?_of_own? own).symm.trans h)
      refine ⟨0, congrArg some (own?_eq_some_iff.mp own), fun m above => ?_⟩
      exact absurd above (Nat.not_lt_zero m)
    | none =>
      rw [status?_of_own?_eq_none own] at h
      obtain ⟨cause, below, h⟩ := Option.bind_eq_some_iff.mp h
      obtain ⟨n, there, none_above⟩ := ih cause below h
      refine ⟨n + 1, (link?_succ below n).trans there, fun m above other => ?_⟩
      cases m with
      | zero =>
        intro same
        obtain rfl := Option.some.inj same
        cases own
      | succ m =>
        rw [link?_succ below]
        exact none_above m (Nat.lt_of_succ_lt_succ above) other

/-- Wrappers stand above what they wrap. -/
theorem link?_foldr_wrapped (texts : List String) (failure : Failure) :
    (texts.foldr wrapped failure).link? texts.length = some failure := by
  induction texts with
  | nil => rfl
  | cons text rest ih => exact ih

/-- Nothing stands below a status. -/
theorem link?_below_status {failure : Failure} {m n : Nat} {found : Status}
    (h : failure.link? m = some (.status found)) (below : m < n) : failure.link? n = none := by
  induction m generalizing failure n with
  | zero =>
    obtain rfl := Option.some.inj h
    cases n with
    | zero => exact absurd below (Nat.lt_irrefl 0)
    | succ n => rfl
  | succ m ih =>
    obtain ⟨cause, source, h⟩ := Option.bind_eq_some_iff.mp h
    cases n with
    | zero => exact absurd below (Nat.not_lt_zero _)
    | succ n => exact (link?_succ source n).trans (ih h (Nat.lt_of_succ_lt_succ below))

/-- **The status of a failure is the first in its chain.**

- The walk down the chain ends, with the status; it is the same for a failure that is handed
  between threads.
- There is one exactly where a link is a status and no link above it is, and none exactly
  where no link is a status. A link that is a status is the answer whatever stands below it,
  and nothing does.
- Whatever stands above a failure changes neither its status nor what is sent, reported and
  counted for it; any number of wrappers do stand above.
- A status that is sealed is not found, and a fault has the status of the source of what it
  carries. -/
theorem status?_is_first (failure : Failure) :
    (∀ outcome, Walk (some failure) outcome ↔ outcome = failure.status?) ∧
    (Shared.mk failure).status? = failure.status? ∧
    (∀ found, failure.status? = some found ↔
      ∃ n, failure.link? n = some (.status found) ∧
        ∀ m < n, ∀ other, failure.link? m ≠ some (.status other)) ∧
    (failure.status? = none ↔ ∀ n other, failure.link? n ≠ some (.status other)) ∧
    (∀ m outer, failure.link? m = some (.status outer) →
      failure.status? = some outer ∧ ∀ n, m < n → failure.link? n = none) ∧
    (∀ (cover : Failure) (n : Nat), cover.link? n = some failure →
      cover.status? = failure.status? ∧
      ∀ (σ : Type) (sink : Sink σ) (session : Session σ) (operation : Operation) (id : String),
        Overload.respond sink session cover.status? operation id =
          Overload.respond sink session failure.status? operation id) ∧
    (∀ texts : List String, (texts.foldr wrapped failure).link? texts.length = some failure) ∧
    (∀ hidden, (Failure.sealed hidden).status? = none) ∧
    (Failure.fault failure).status? = failure.source?.bind status? := by
  have first : ∀ m outer, failure.link? m = some (.status outer) → failure.status? = some outer :=
    fun m outer there => status?_of_link there
  refine ⟨fun outcome => walk_iff, rfl, fun found => ⟨exists_link_of_status?, ?_⟩, ?_, ?_, ?_,
    fun texts => link?_foldr_wrapped texts failure, fun hidden => rfl, ?_⟩
  · rintro ⟨n, there, -⟩
    exact first n found there
  · constructor
    · intro absent n other there
      rw [first n other there] at absent
      cases absent
    · intro absent
      rw [Option.eq_none_iff_forall_ne_some]
      intro found there
      obtain ⟨n, link, -⟩ := exists_link_of_status? there
      exact absent n found link
  · exact fun m outer there => ⟨first m outer there, fun n below => link?_below_status there below⟩
  · intro cover n above
    have same : cover.status? = failure.status? := status?_of_link above
    exact ⟨same, fun σ sink session operation id => by rw [same]⟩
  · have unrecognised : (Failure.fault failure).own? = none := rfl
    exact status?_of_own?_eq_none unrecognised

/-- A status under a wrapper, a fault that skips one more wrapper, and a wrapper above. -/
example (found : Status) :
    (Failure.wrapped "call" (.fault (.wrapped "skipped" (.wrapped "read" (.status found))))).status? =
      some found := rfl

end GitGateway.Failure
