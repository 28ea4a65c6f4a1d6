import GitGateway.Backend.Error
import GitGateway.Overload
import GitGateway.Proofs.Notice

/-!
# The courses of an overload

What can come of looking for an overload in an error, for every error, every sink, every
ID and both operations. There are three courses, and every look takes exactly one:

- `Ignored`: the error is no overload, and nothing at all is done;
- `Notified`: the busy notice went out to its end and was counted;
- `Broken`: the sink failed on the way. The failure is reported once and nothing is
  counted, and the sink is left with less than the notice.

`respond_takes_one_course` is the statement. That a notice is never refused for its
length, whatever the ID, is what keeps the third course to the failures of the sink.
-/

namespace GitGateway

namespace Overload

/-- An error in the forms in which it is handed over: as the head of a chain of failures,
as a status, or as an error of a backend call. -/
inductive Subject where
  | chain (failure : Failure)
  | status (status : Status)
  | call (error : Backend.Error)

/-- The status that is found in an error. A chain is walked; the other two are not. -/
def Subject.status? : Subject → Option Status
  | .chain failure => failure.status?
  | .status found => some found
  | .call error => error.status?

variable {σ : Type}

/-- Nothing was done: no call on the sink, no report, no count. -/
structure Ignored (before : Session σ) (outcome : Outcome σ) : Prop where
  detected : outcome.detected = false
  session : outcome.session = before
  reports : outcome.reports = []
  counters : outcome.counters = []

/-- The sink took the whole notice, which was counted once. -/
structure Notified (operation : Operation) (id : String) (outcome : Outcome σ) : Prop where
  detected : outcome.detected = true
  written : outcome.session.written = BusyNotice.octets operation (CorrelationId.bounded id)
  reports : outcome.reports = []
  counters : outcome.counters = [.busyNotice operation]

/-- The sink failed: the error of its last call, the first that failed, was reported
once, and the sink took less than the notice. -/
structure Broken (operation : Operation) (id : String) (outcome : Outcome σ) : Prop where
  detected : outcome.detected = true
  reports : ∃ e last earlier,
    outcome.reports = [⟨CorrelationId.bounded id, operation, e⟩] ∧
    outcome.session.calls = last :: earlier ∧ last.failure? = some e ∧
    (∀ call ∈ earlier, call.failure? = none) ∧ ∀ length, e ≠ .oversized length
  counters : outcome.counters = []
  starts : outcome.session.written <+: BusyNotice.octets operation (CorrelationId.bounded id)
  short : outcome.session.written ≠ BusyNotice.octets operation (CorrelationId.bounded id)

/-! ## One course for each status -/

/-- Without an overload nothing is done. -/
theorem respond_ignored {status : Option Status} (h : status.any Status.isOverloaded = false)
    (sink : Sink σ) (session : Session σ) (operation : Operation) (id : String) :
    Ignored session (respond sink session status operation id) := by
  rw [respond, h]
  exact ⟨rfl, rfl, rfl, rfl⟩

/-- A notice that goes out to its end is counted. -/
theorem respond_of_ok {status : Option Status} (h : status.any Status.isOverloaded = true)
    {sink : Sink σ} {session after : Session σ} {operation : Operation} {id : String}
    (sent : BusyNotice.write sink session operation (CorrelationId.bounded id) =
      (.ok (), after)) :
    respond sink session status operation id = ⟨true, after, [], [.busyNotice operation]⟩ := by
  simp only [respond, h, sent, if_true]

/-- A notice that does not is reported. -/
theorem respond_of_error {status : Option Status} (h : status.any Status.isOverloaded = true)
    {sink : Sink σ} {session after : Session σ} {operation : Operation} {id : String}
    {e : WriteError}
    (sent : BusyNotice.write sink session operation (CorrelationId.bounded id) =
      (.error e, after)) :
    respond sink session status operation id =
      ⟨true, after, [⟨CorrelationId.bounded id, operation, e⟩], []⟩ := by
  simp only [respond, h, sent, if_true]

/-- Under an overload the notice goes out to its end, or up to a failure of the sink. -/
theorem respond_overloaded {status : Option Status} (h : status.any Status.isOverloaded = true)
    (sink : Sink σ) (state : σ) (operation : Operation) (id : String) :
    let outcome := respond sink (Session.start state) status operation id
    sink.Calls (fun _ => True) (Session.start state) outcome.session ∧
      (Notified operation id outcome ∨ Broken operation id outcome) := by
  have sent := BusyNotice.write_delivery sink (Session.start state) operation id
  rcases attempt : BusyNotice.write sink (Session.start state) operation
    (CorrelationId.bounded id) with ⟨e | done, after⟩
  · rw [attempt] at sent
    rw [respond_of_error h attempt]
    obtain ⟨last, earlier, calls, failure, before⟩ := sent.last_failed
    refine ⟨sent.calls, .inr ⟨rfl, ⟨e, last, earlier, rfl, calls, failure, before, ?_⟩, rfl,
      sent.written_prefix, fun all => ?_⟩⟩
    · rintro length rfl
      exact last.failure?_ne_oversized length failure
    · cases sent.ok_iff.mpr all
  · rw [attempt] at sent
    rw [respond_of_ok h attempt]
    exact ⟨sent.calls, .inl ⟨rfl, sent.ok_iff.mp rfl, rfl, rfl⟩⟩

/-- In memory an overload is always answered in full. -/
theorem respond_memory {status : Option Status} (h : status.any Status.isOverloaded = true)
    (operation : Operation) (id : String) :
    Notified operation id (respond Sink.memory (Session.start ()) status operation id) := by
  have sent := BusyNotice.write_delivery Sink.memory (Session.start ()) operation id
  obtain ⟨ok, written⟩ := sent.of_steady Sink.memory_steady
  rw [respond_of_ok h (Prod.ext ok rfl)]
  exact ⟨rfl, written, rfl, rfl⟩

/-! ## Exactly one course -/

/-- A status is an overload when one of its details is a reached limit. -/
theorem isOverloaded_eq_false_iff (status : Status) :
    status.isOverloaded = false ↔
      ∀ message retryAfter, Detail.limitReached message retryAfter ∉ status.details := by
  rw [Status.isOverloaded, List.any_eq_false]
  constructor
  · intro h message retryAfter hmem
    exact h _ hmem rfl
  · intro h detail hmem
    cases detail with
    | limitReached message retryAfter => exact absurd hmem (h message retryAfter)
    | other => exact Bool.false_ne_true

/-- What it takes for an error to be no overload. -/
theorem any_isOverloaded_eq_false_iff (subject : Option Subject) :
    (subject.bind Subject.status?).any Status.isOverloaded = false ↔ subject = none ∨
      (∃ error, subject = some error ∧ error.status? = none) ∨
      ∃ error status, subject = some error ∧ error.status? = some status ∧
        ∀ message retryAfter, Detail.limitReached message retryAfter ∉ status.details := by
  cases subject with
  | none => simp
  | some error =>
    show error.status?.any Status.isOverloaded = false ↔ _
    cases hs : error.status? with
    | none => simp [hs]
    | some status => simp [hs, isOverloaded_eq_false_iff]

/-- **Every look for an overload takes exactly one course**, and the calls on record are
the sink's own. It is ignored exactly when there is no error, no status in it, or no
reached limit among the details of the status. -/
theorem respond_takes_one_course (sink : Sink σ) (state : σ) (subject : Option Subject)
    (operation : Operation) (id : String) :
    let outcome := respond sink (Session.start state) (subject.bind Subject.status?) operation id
    let ignored := Ignored (Session.start state) outcome
    let notified := Notified operation id outcome
    let broken := Broken operation id outcome
    (ignored ∧ ¬ notified ∧ ¬ broken ∨ ¬ ignored ∧ notified ∧ ¬ broken ∨
      ¬ ignored ∧ ¬ notified ∧ broken) ∧
    (outcome.detected = false ↔ subject = none ∨
      (∃ error, subject = some error ∧ error.status? = none) ∨
      ∃ error status, subject = some error ∧ error.status? = some status ∧
        ∀ message retryAfter, Detail.limitReached message retryAfter ∉ status.details) ∧
    sink.Calls (fun _ => True) (Session.start state) outcome.session := by
  intro outcome ignored notified broken
  -- a notice that was taken in full was not cut short
  have apart : ¬ (notified ∧ broken) := fun ⟨all, cut⟩ => cut.short all.written
  cases h : (subject.bind Subject.status?).any Status.isOverloaded with
  | false =>
    have course : ignored := respond_ignored h sink (Session.start state) operation id
    have unseen : outcome.detected ≠ true := by rw [course.detected]; exact Bool.false_ne_true
    refine ⟨.inl ⟨course, fun h => unseen h.detected, fun h => unseen h.detected⟩, ?_, ?_⟩
    · exact ⟨fun _ => (any_isOverloaded_eq_false_iff subject).mp h, fun _ => course.detected⟩
    · rw [course.session]
      exact .none
  | true =>
    obtain ⟨calls, course⟩ := respond_overloaded h sink state operation id
    have seen : outcome.detected = true := course.elim Notified.detected Broken.detected
    have unignored : ¬ ignored := fun h => by
      have := h.detected
      rw [seen] at this
      cases this
    refine ⟨.inr ?_, ?_, calls⟩
    · rcases course with all | cut
      · exact .inl ⟨unignored, all, fun cut => apart ⟨all, cut⟩⟩
      · exact .inr ⟨unignored, fun all => apart ⟨all, cut⟩, cut⟩
    · rw [seen, ← any_isOverloaded_eq_false_iff, h]

end Overload

end GitGateway
