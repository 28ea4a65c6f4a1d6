import GitGateway.BusyNotice

/-!
# Delivery to a sink

What a sink is left with when octets are sent to it, for every sink: it may take
them in pieces of any size, interrupt, or fail at any call.

- `Sink.Calls p before after`: `after` comes of `before` by calls that the sink
  answered itself, all of which satisfy `p`;
- `Sink.Delivery before data result after`: the two ways in which an attempt to send
  `data` ends. Either no call failed and all of `data` was taken, or the last call
  failed, no call before it did, and less than all of `data` was taken;
- `send_delivery`, `sendAll_delivery`, `Frame.write_delivery`,
  `Frame.writeAll_delivery`: every way of sending ends in one of the two. Each layer
  follows from the one below it by `Delivery.prepend`, which puts a part that was
  taken in full before a part that is still to be sent.

Sending to memory is the case of a sink that never fails (`Delivery.of_steady`), so
the octets that a rendering has in memory are the ones any other sink receives.
-/

namespace GitGateway

/-! ## Calls -/

/-- The error that a call ends an attempt with, if it does. -/
def Call.failure? (call : Call) : Option WriteError :=
  match call.reply with
  | .failed cause => some (.fault cause)
  | .accepted 0 => some .stalled
  | .accepted (_ + 1) | .interrupted => none

/-- A call that fails takes nothing. -/
theorem Call.taken_of_failure {call : Call} {e : WriteError} (h : call.failure? = some e) :
    call.taken = [] := by
  obtain ⟨offer, reply⟩ := call
  match reply with
  | .failed _ => rfl
  | .accepted 0 => rfl
  | .accepted (_ + 1) | .interrupted => simp [Call.failure?] at h

/-- A failure of a call is a failure of the sink. -/
theorem Call.failure?_ne_oversized (call : Call) (length : Nat) :
    call.failure? ≠ some (.oversized length) := by
  unfold Call.failure?
  split <;> nofun

namespace Sink

variable {σ : Type}

/-- One call on the sink in the state of a session: something is offered, and the
sink's own answer is recorded. -/
inductive Makes (sink : Sink σ) (before : Session σ) (call : Call) : Session σ → Prop
  | intro {state : σ} (offered : call.offer ≠ [])
      (answered : sink.write before.state call.offer = (call.reply, state)) :
      Makes sink before call (before.record call state)

theorem Makes.written {sink : Sink σ} {before after : Session σ} {call : Call}
    (h : sink.Makes before call after) : after.written = before.written ++ call.taken := by
  obtain ⟨-, -⟩ := h
  exact Session.written_record ..

theorem Makes.calls {sink : Sink σ} {before after : Session σ} {call : Call}
    (h : sink.Makes before call after) : after.calls = call :: before.calls := by
  obtain ⟨-, -⟩ := h
  rfl

/-- Any number of calls, each of which satisfies `p`. -/
inductive Calls (sink : Sink σ) (p : Call → Prop) (before : Session σ) : Session σ → Prop
  | none : Calls sink p before before
  | more {mid after : Session σ} {call : Call} (earlier : Calls sink p before mid)
      (last : sink.Makes mid call after) (holds : p call) : Calls sink p before after

namespace Calls

variable {sink : Sink σ} {p q : Call → Prop} {before mid after : Session σ}

theorem one {call : Call} (h : sink.Makes before call after) (holds : p call) :
    sink.Calls p before after :=
  .more .none h holds

theorem trans (h₁ : sink.Calls p before mid) (h₂ : sink.Calls p mid after) :
    sink.Calls p before after := by
  induction h₂ with
  | none => exact h₁
  | more _ last holds ih => exact ih.more last holds

theorem mono (hpq : ∀ call, p call → q call) (h : sink.Calls p before after) :
    sink.Calls q before after := by
  induction h with
  | none => exact .none
  | more _ last holds ih => exact ih.more last (hpq _ holds)

/-- What holds of the calls before and of the calls made holds of all calls after. -/
theorem forall_mem (h : sink.Calls p before after) (hbefore : ∀ call ∈ before.calls, p call) :
    ∀ call ∈ after.calls, p call := by
  induction h with
  | none => exact hbefore
  | more _ last holds ih =>
    intro call hmem
    rw [last.calls] at hmem
    rcases List.mem_cons.mp hmem with rfl | hmem
    · exact holds
    · exact ih call hmem

end Calls

/-! ## The two ways in which an attempt ends -/

/-- Calls that did not fail. -/
abbrev Proceeds (sink : Sink σ) : Session σ → Session σ → Prop :=
  sink.Calls fun call => call.failure? = none

/-- How an attempt to send `data` ends: with all of it taken, or with a call that
failed after some of it, and not all, was taken. -/
inductive Delivery (sink : Sink σ) (before : Session σ) (data : Bytes) :
    Except WriteError Unit → Session σ → Prop
  | complete {after : Session σ} (calls : sink.Proceeds before after)
      (written : after.written = before.written ++ data) : Delivery sink before data (.ok ()) after
  | broken {mid after : Session σ} {call : Call} {e : WriteError} {taken : Bytes}
      (calls : sink.Proceeds before mid) (last : sink.Makes mid call after)
      (failure : call.failure? = some e) (written : after.written = before.written ++ taken)
      (starts : taken <+: data) (short : taken ≠ data) :
      Delivery sink before data (.error e) after

/-- An attempt goes on after calls that took the first part of what was to be sent. -/
theorem Delivery.prepend {sink : Sink σ} {before mid after : Session σ} {first rest : Bytes}
    {result : Except WriteError Unit} (calls : sink.Proceeds before mid)
    (written : mid.written = before.written ++ first)
    (h : sink.Delivery mid rest result after) :
    sink.Delivery before (first ++ rest) result after := by
  cases h with
  | complete calls' written' =>
    refine .complete (calls.trans calls') ?_
    rw [written', written, List.append_assoc]
  | broken calls' last failure written' starts short =>
    refine .broken (calls.trans calls') last failure ?_
      ((List.prefix_append_right_inj first).mpr starts)
      (fun h => short (List.append_cancel_left h))
    rw [written', written, List.append_assoc]

/-- An attempt after one call that did not fail. -/
theorem Delivery.after_call {sink : Sink σ} {before mid after : Session σ} {call : Call}
    {rest : Bytes} {result : Except WriteError Unit} (made : sink.Makes before call mid)
    (unfailed : call.failure? = none) (h : sink.Delivery mid rest result after) :
    sink.Delivery before (call.taken ++ rest) result after :=
  h.prepend (.one made unfailed) made.written

/-- An attempt that breaks off in the first part of what was to be sent. -/
theorem Delivery.extend {sink : Sink σ} {before after : Session σ} {data : Bytes} {e : WriteError}
    (h : sink.Delivery before data (.error e) after) (rest : Bytes) :
    sink.Delivery before (data ++ rest) (.error e) after := by
  cases h with
  | broken calls last failure written starts short =>
    refine .broken calls last failure written (starts.trans (List.prefix_append ..)) ?_
    -- what was taken is no longer than the first part, and not all of it
    rintro rfl
    exact short (starts.eq_of_length_le (by simp))

/-- What the end of an attempt means for one that has more to send: either any attempt at
the rest goes on from there, or it breaks off at the same call. -/
theorem Delivery.then_or_broken {sink : Sink σ} {before mid : Session σ} {first : Bytes}
    {result : Except WriteError Unit} (h : sink.Delivery before first result mid) :
    (result = .ok () ∧ ∀ {rest result' after}, sink.Delivery mid rest result' after →
      sink.Delivery before (first ++ rest) result' after) ∨
    ∃ e, result = .error e ∧ ∀ rest, sink.Delivery before (first ++ rest) (.error e) mid := by
  cases h with
  | complete calls written => exact .inl ⟨rfl, fun later => later.prepend calls written⟩
  | @broken _ _ _ e _ calls last failure written starts short =>
    have here : sink.Delivery before first (.error e) mid :=
      .broken calls last failure written starts short
    exact .inr ⟨e, rfl, here.extend⟩

/-- An attempt that ends with its first call. -/
theorem Delivery.of_failure {sink : Sink σ} {before after : Session σ} {call : Call}
    {data : Bytes} {e : WriteError} (made : sink.Makes before call after)
    (failure : call.failure? = some e) (nonempty : data ≠ []) :
    sink.Delivery before data (.error e) after := by
  have nothing : after.written = before.written ++ [] := by
    rw [made.written, Call.taken_of_failure failure]
  exact .broken .none made failure nothing List.nil_prefix nonempty.symm

section FromStart

variable {sink : Sink σ} {state : σ} {data : Bytes} {result : Except WriteError Unit}
  {after : Session σ}

/-- The calls on record are the sink's own, however the attempt ends. -/
theorem Delivery.calls {before : Session σ} (h : sink.Delivery before data result after) :
    sink.Calls (fun _ => True) before after := by
  cases h with
  | complete calls => exact calls.mono fun _ _ => trivial
  | broken calls last => exact (calls.mono fun _ _ => trivial).more last trivial

/-- What the sink takes is a prefix of what is sent. -/
theorem Delivery.written_prefix (h : sink.Delivery (Session.start state) data result after) :
    after.written <+: data := by
  cases h with
  | complete _ written => rw [written]; exact List.prefix_rfl
  | broken _ _ _ written starts _ => rw [written]; exact starts

/-- An attempt succeeds exactly when the sink takes all that is sent. -/
theorem Delivery.ok_iff (h : sink.Delivery (Session.start state) data result after) :
    result = .ok () ↔ after.written = data := by
  cases h with
  | complete _ written => exact ⟨fun _ => written, fun _ => rfl⟩
  | broken _ _ _ written _ short =>
    refine ⟨nofun, fun all => ?_⟩
    exact absurd (written.symm.trans all) short

/-- No call of a successful attempt failed. -/
theorem Delivery.unfailed (h : sink.Delivery (Session.start state) data (.ok ()) after) :
    ∀ call ∈ after.calls, call.failure? = none := by
  cases h with
  | complete calls => exact calls.forall_mem nofun

/-- An attempt that does not succeed ends with the first call that fails, and returns
what that call failed with. -/
theorem Delivery.last_failed {e : WriteError}
    (h : sink.Delivery (Session.start state) data (.error e) after) :
    ∃ last earlier, after.calls = last :: earlier ∧ last.failure? = some e ∧
      ∀ call ∈ earlier, call.failure? = none := by
  cases h with
  | @broken mid _ call _ _ calls last failure =>
    exact ⟨call, mid.calls, last.calls, failure, calls.forall_mem nofun⟩

end FromStart

/-! ## Sending -/

/-- **Sending a run of octets**, by induction on the calls that are made. -/
theorem send_delivery (sink : Sink σ) (session : Session σ) (data : Bytes) :
    sink.Delivery session data (sink.send session data).1 (sink.send session data).2 := by
  fun_induction Sink.send sink session data with
  | case1 session => exact .complete .none (List.append_nil _).symm
  | case2 session b rest state answered ih =>
    exact ih.after_call ⟨List.cons_ne_nil _ _, answered⟩ rfl
  | case3 session b rest cause state answered =>
    exact .of_failure ⟨List.cons_ne_nil _ _, answered⟩ rfl (List.cons_ne_nil _ _)
  | case4 session b rest state answered =>
    exact .of_failure ⟨List.cons_ne_nil _ _, answered⟩ rfl (List.cons_ne_nil _ _)
  | case5 session b rest count state answered ih =>
    -- what the call took and what is offered next make up the run
    have split : Call.taken ⟨b :: rest, .accepted (count + 1)⟩ ++ rest.drop count = b :: rest := by
      show (b :: rest).take (count + 1) ++ rest.drop count = b :: rest
      rw [List.take_succ_cons, List.cons_append, List.take_append_drop]
    have := ih.after_call ⟨List.cons_ne_nil _ _, answered⟩ rfl
    rwa [split] at this

/-- Sending several runs is sending their concatenation. -/
theorem sendAll_delivery (sink : Sink σ) (session : Session σ) (parts : List Bytes) :
    sink.Delivery session parts.flatten (sink.sendAll session parts).1
      (sink.sendAll session parts).2 := by
  induction parts generalizing session with
  | nil => exact .complete .none (List.append_nil _).symm
  | cons data rest ih =>
    have head := send_delivery sink session data
    rw [Sink.sendAll, List.flatten_cons]
    generalize sink.send session data = sent at head ⊢
    obtain ⟨result, mid⟩ := sent
    rcases head.then_or_broken with ⟨rfl, later⟩ | ⟨e, rfl, broken⟩
    · exact later (ih mid)
    · exact broken rest.flatten

/-! ## Sinks that never fail -/

/-- A sink that takes at least one octet of every offer, or interrupts. -/
def Steady (sink : Sink σ) : Prop :=
  ∀ state offer, offer ≠ [] → Call.failure? ⟨offer, (sink.write state offer).1⟩ = none

theorem memory_steady : memory.Steady := by
  intro _ offer offered
  cases offer with
  | nil => exact absurd rfl offered
  | cons b rest => rfl

/-- A sink that never fails is left with all that was sent. -/
theorem Delivery.of_steady {sink : Sink σ} (steady : sink.Steady) {before after : Session σ}
    {data : Bytes} {result : Except WriteError Unit} (h : sink.Delivery before data result after) :
    result = .ok () ∧ after.written = before.written ++ data := by
  cases h with
  | complete calls written => exact ⟨rfl, written⟩
  | @broken mid _ call e _ calls last failure _ _ _ =>
    obtain ⟨offered, answered⟩ := last
    have := steady mid.state call.offer offered
    rw [answered, failure] at this
    cases this

end Sink

/-! ## Frames -/

namespace Frame

variable {σ : Type}

/-- Whether what follows the length field is short enough for a frame. -/
def Fits (frame : Frame) : Prop :=
  frame.body.length ≤ PktLine.maxPayload

instance (frame : Frame) : Decidable frame.Fits :=
  inferInstanceAs (Decidable (_ ≤ _))

theorem write_of_fits {frame : Frame} (h : frame.Fits) (sink : Sink σ) (session : Session σ) :
    frame.write sink session = sink.sendAll session frame.parts :=
  if_neg (Nat.not_lt.mpr h)

/-- A frame that is too long is refused before any call. -/
theorem write_of_not_fits {frame : Frame} (h : ¬ frame.Fits) (sink : Sink σ)
    (session : Session σ) :
    frame.write sink session = (.error (.oversized frame.body.length), session) :=
  if_pos (Nat.lt_of_not_le h)

/-- **Sending a frame.** -/
theorem write_delivery {frame : Frame} (h : frame.Fits) (sink : Sink σ) (session : Session σ) :
    sink.Delivery session frame.octets (frame.write sink session).1
      (frame.write sink session).2 := by
  rw [write_of_fits h]
  exact Sink.sendAll_delivery sink session frame.parts

/-- **Sending several frames** is sending their octets one after the other. -/
theorem writeAll_delivery (sink : Sink σ) (session : Session σ) (frames : List Frame)
    (h : ∀ frame ∈ frames, frame.Fits) :
    sink.Delivery session (frames.flatMap octets) (writeAll sink session frames).1
      (writeAll sink session frames).2 := by
  induction frames generalizing session with
  | nil => exact .complete .none (List.append_nil _).symm
  | cons frame rest ih =>
    have head := write_delivery (h frame (List.mem_cons_self ..)) sink session
    -- wherever the sink is after the first frame, the rest ends in one of the two ways
    have tail := fun mid => ih mid fun other hmem => h other (List.mem_cons_of_mem _ hmem)
    rw [writeAll, List.flatMap_cons]
    generalize frame.write sink session = sent at head ⊢
    obtain ⟨result, mid⟩ := sent
    rcases head.then_or_broken with ⟨rfl, later⟩ | ⟨e, rfl, broken⟩
    · exact later (tail mid)
    · exact broken (rest.flatMap octets)

/-- Only frames that fit can be sent to the end. -/
theorem fits_of_writeAll_ok {sink : Sink σ} {session : Session σ} {frames : List Frame}
    (h : (writeAll sink session frames).1 = .ok ()) : ∀ frame ∈ frames, frame.Fits := by
  induction frames generalizing session with
  | nil => simp
  | cons frame rest ih =>
    by_cases hfits : frame.Fits
    · rw [writeAll, write_of_fits hfits] at h
      split at h
      · exact List.forall_mem_cons.mpr ⟨hfits, ih h⟩
      · -- the sink failed within this frame, and the whole attempt with it
        rename_i failed
        exact absurd h (failed _ ∘ fun h => Prod.ext h rfl)
    · rw [writeAll, write_of_not_fits hfits] at h
      cases h

end Frame

end GitGateway
