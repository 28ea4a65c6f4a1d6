import GitGateway.Proofs.Delivery

/-!
# Writers on any sink

Whatever the gateway writes, a frame or a whole busy notice, has one rendering, the
octets that it leaves in memory. `Writer.run_on_any_sink` says what becomes of that
rendering on a sink that is nothing but a state machine: the sink takes a prefix of it,
all of it exactly when the writer succeeds, and otherwise the writer ends with the call
that failed and returns what that call failed with.
-/

namespace GitGateway

/-- What the gateway writes: one frame, or all frames of a busy notice. -/
inductive Writer where
  | single (frame : Frame)
  | notice (operation : Operation) (id : String)

namespace Writer

variable {σ : Type}

/-- Writes to a sink. -/
def run (sink : Sink σ) (session : Session σ) : Writer → Except WriteError Unit × Session σ
  | .single frame => frame.write sink session
  | .notice operation id => BusyNotice.write sink session operation id

/-- The octets that a writer leaves in memory, if it succeeds there. -/
def inMemory (writer : Writer) : Except WriteError Bytes :=
  match writer.run Sink.memory (Session.start ()) with
  | (.ok (), session) => .ok session.written
  | (.error e, _) => .error e

/-- The frames that are sent. -/
def frames : Writer → List Frame
  | .single frame => [frame]
  | .notice operation id => BusyNotice.frames operation id

/-- A writer sends its frames one after the other. -/
theorem run_eq_writeAll (writer : Writer) (sink : Sink σ) (session : Session σ) :
    writer.run sink session = Frame.writeAll sink session writer.frames := by
  cases writer with
  | single frame =>
    show frame.write sink session = Frame.writeAll sink session [frame]
    rw [Frame.writeAll]
    obtain ⟨result, after⟩ := frame.write sink session
    cases result <;> rfl
  | notice operation id => rfl

/-- A rendering in memory succeeds exactly when every frame fits, and then holds the
octets of all frames. -/
theorem inMemory_eq_ok_iff {writer : Writer} {rendering : Bytes} :
    writer.inMemory = .ok rendering ↔
      (∀ frame ∈ writer.frames, frame.Fits) ∧ writer.frames.flatMap Frame.octets = rendering := by
  -- frames that fit reach memory in full, since memory never fails
  have inFull : ∀ fits : ∀ frame ∈ writer.frames, frame.Fits,
      writer.inMemory = .ok (writer.frames.flatMap Frame.octets) := by
    intro fits
    have sent := Frame.writeAll_delivery Sink.memory (Session.start ()) writer.frames fits
    obtain ⟨ok, written⟩ := sent.of_steady Sink.memory_steady
    rw [inMemory, run_eq_writeAll]
    generalize Frame.writeAll Sink.memory (Session.start ()) writer.frames = outcome at ok written
    obtain ⟨result, after⟩ := outcome
    obtain rfl : result = .ok () := ok
    exact congrArg Except.ok written
  constructor
  · intro h
    have ok : (Frame.writeAll Sink.memory (Session.start ()) writer.frames).1 = .ok () := by
      rw [inMemory, run_eq_writeAll] at h
      split at h
      · rename_i ran
        rw [ran]
      · cases h
    have fits := Frame.fits_of_writeAll_ok ok
    rw [inFull fits] at h
    exact ⟨fits, Except.ok.inj h⟩
  · rintro ⟨fits, rfl⟩
    exact inFull fits

/-- **A writer on any sink.** Let `rendering` be what the writer leaves in memory. On
every sink, from every state:

- the calls on record are the ones that the sink answered;
- the sink takes a prefix of the rendering, and all of it exactly on success;
- on success no call failed. Otherwise the last call failed with the error that is
  returned, and no call before it did;
- a sink that never fails takes all of the rendering. -/
theorem run_on_any_sink {writer : Writer} {rendering : Bytes}
    (h : writer.inMemory = .ok rendering) (sink : Sink σ) (state : σ) :
    let outcome := writer.run sink (Session.start state)
    sink.Calls (fun _ => True) (Session.start state) outcome.2 ∧
    outcome.2.written <+: rendering ∧
    (outcome.1 = .ok () ↔ outcome.2.written = rendering) ∧
    (outcome.1 = .ok () → ∀ call ∈ outcome.2.calls, call.failure? = none) ∧
    (∀ e, outcome.1 = .error e → ∃ last earlier, outcome.2.calls = last :: earlier ∧
      last.failure? = some e ∧ ∀ call ∈ earlier, call.failure? = none) ∧
    (sink.Steady → outcome.1 = .ok () ∧ outcome.2.written = rendering) := by
  obtain ⟨fits, rfl⟩ := inMemory_eq_ok_iff.mp h
  have sent := Frame.writeAll_delivery sink (Session.start state) writer.frames fits
  rw [← run_eq_writeAll] at sent
  intro outcome
  refine ⟨sent.calls, sent.written_prefix, sent.ok_iff, ?_, ?_, fun steady => sent.of_steady steady⟩
  · intro ok
    exact (ok ▸ sent).unfailed
  · intro e failed
    exact (failed ▸ sent).last_failed

/-- A notice on a sink that takes three octets at a time, interrupts every third call,
and fails once nine calls have gone through. -/
theorem notice_is_cut_short :
    let notice := Writer.notice .receivePack "réf"
    let sink := Sink.troubled { budget := some 9, chunk := some 3, interruptGap := some 1 }
    notice.inMemory = .ok (BusyNotice.octets .receivePack "réf") ∧
      (notice.run sink (Session.start { budget := some 9 })).2.written <+:
        BusyNotice.octets .receivePack "réf" := by
  intro notice sink
  have rendering : notice.inMemory = .ok (BusyNotice.octets .receivePack "réf") :=
    inMemory_eq_ok_iff.mpr ⟨by decide, rfl⟩
  exact ⟨rendering, (run_on_any_sink rendering sink { budget := some 9 }).2.1⟩

end Writer

end GitGateway
