import GitGateway.Proofs.Accounting
import GitGateway.Proofs.Containment
import GitGateway.Proofs.Cut

/-!
# An overload is told in full

The answer to an overloaded Git operation goes out as a success before anyone has looked at
what was rendered. So it had better be all of the notice, whatever the ID is.

- `Line.size`: the octets of a line with its length field;
- `BusyNotice.size_le`: **no line of a notice about a bounded ID is longer than 281 octets**. On a
  fetch that is reached, by an ID of 49 characters of four octets each;
- `BusyNotice.write_memory_bounded`: rendering such a notice does not fail;
- `Counter.sumOf_addAll`: more increments add to a sum of totals as many as are selected by it;
- `Proxy.overload_is_told_in_full`: the whole answer, with its headers, its body, what is logged
  and what is counted.
-/

namespace GitGateway

/-! ## The size of a line -/

/-- The octets that a line takes, its length field included. -/
def Line.size : Line → Nat
  | .data payload => PktLine.fieldLength + payload.length
  | .flush => PktLine.fieldLength

/-- A frame is read as a line of the length field and the body of the frame. -/
theorem Frame.size_line (frame : Frame) :
    frame.line.size = PktLine.fieldLength + frame.body.length := by
  cases frame with
  | data payload => rfl
  | banded band payload => rfl
  | flush => rfl

namespace BusyNotice

/-- The lines of a notice are those of its frames. -/
theorem lines_eq_map (operation : Operation) (id : String) :
    lines operation (Utf8.encode (message id)) = (frames operation id).map Frame.line := by
  cases operation with
  | receivePack => rfl
  | uploadPack =>
    rw [frames_uploadPack]
    rfl

/-- **No line of a notice about a bounded ID** is longer than 281 octets. -/
theorem size_le {operation : Operation} {id : String} {line : Line}
    (h : line ∈ lines operation (Utf8.encode (message (CorrelationId.bounded id)))) :
    line.size ≤ 281 := by
  rw [lines_eq_map] at h
  obtain ⟨frame, member, rfl⟩ := List.mem_map.mp h
  have body : frame.body.length ≤ 277 := length_body_le member
  rw [Frame.size_line, PktLine.fieldLength]
  omega

/-- The one line on a fetch has 77 octets around its ID. -/
theorem size_error_line (id : String) :
    (Line.data (Utf8.encode "ERR " ++ Utf8.encode (message id))).size =
      (Utf8.encode id).length + 77 := by
  rw [Line.size, length_error_line, length_encode_message, PktLine.fieldLength]
  omega

/-- **Rendering a notice about a bounded ID** does not fail, and gives all of it. -/
theorem write_memory_bounded (operation : Operation) (id : String) :
    let rendered := write Sink.memory (Session.start ()) operation (CorrelationId.bounded id)
    rendered.1 = .ok () ∧
      rendered.2.written = octets operation (CorrelationId.bounded id) := by
  have delivered := write_delivery Sink.memory (Session.start ()) operation id
  exact delivered.of_steady Sink.memory_steady

end BusyNotice

/-! ## Totals -/

namespace Counter

/-- More increments add to a sum of totals as many as are selected. -/
theorem sumOf_addAll (before more : List Counter) (p : Counter → Bool) :
    sumOf (addAll (tally before) more) p = sumOf (tally before) p + more.countP p := by
  rw [addAll_tally, sumOf_tally, sumOf_tally, List.countP_append]

/-- Of a failed call and a notice, a sum that selects one of the two gets one more. -/
theorem sumOf_error_and_notice (before : List Counter) {label : String} {operation : Operation}
    {p : Counter → Bool} (one : p (.backendError label) ≠ p (.busyNotice operation)) :
    sumOf (addAll (tally before) [.backendError label, .busyNotice operation]) p =
      sumOf (tally before) p + 1 := by
  have selected : [Counter.backendError label, .busyNotice operation].countP p = 1 := by
    cases error : p (.backendError label) with
    | true =>
      have notice : p (.busyNotice operation) = false := by simpa [error] using one.symm
      simp [error, notice]
    | false =>
      have notice : p (.busyNotice operation) = true := by simpa [error] using one.symm
      simp [error, notice]
  rw [sumOf_addAll, selected]

end Counter

/-! ## The answer -/

namespace Proxy

/-- What is logged of an overload: that the notice goes out, and no failure to write it. -/
theorem refusal_records {error : Backend.Error}
    (overloaded : error.status?.any Status.isOverloaded = true) (operation : Operation)
    (id : String) : (refusal error (some operation) id).records =
      [event .warn "Backend overloaded, sending busy response" id
        [("operation", operation.service), ("error", error.text)]] := by
  have notified := Overload.respond_memory overloaded operation id
  simp only [refusal, notified.detected, notified.reports, if_true, List.map_nil, List.nil_append]

/-- **An overload is told in full.** Whatever the ID is, for an error with a status that has a
reached limit among its details, and for both operations:

- the answer is a success of the type that the operation has, not to be kept, with the whole
  notice about the bounded ID as its body;
- the notice was rendered without an error, so none was reported or logged;
- the notice and the error are counted once each, under the operation and the code, and in all;
- the body reads as the lines of the notice with nothing left, and none of them is longer than
  281 octets. -/
theorem overload_is_told_in_full {error : Backend.Error} {status : Status} {message : String}
    {retryAfter : Nat} (carried : error.status? = some status)
    (limit : Detail.limitReached message retryAfter ∈ status.details) (operation : Operation)
    (id : String) :
    let shown := CorrelationId.bounded id
    let notice := BusyNotice.octets operation shown
    let lines := BusyNotice.lines operation (Utf8.encode (BusyNotice.message shown))
    let rendered := BusyNotice.write Sink.memory (Session.start ()) operation shown
    let answer := refusal error (some operation) id
    answer.response = {
      status := 200
      headers := [("content-type", Utf8.encode operation.resultType),
        ("cache-control", Utf8.encode "no-cache")]
      body := { octets := notice } } ∧
    (rendered.1 = .ok () ∧ rendered.2.written = notice) ∧
    (Overload.respond Sink.memory (Session.start ()) error.status? operation id).reports = [] ∧
    answer.records = [event .warn "Backend overloaded, sending busy response" id
      [("operation", operation.service), ("error", error.text)]] ∧
    answer.counters = [.backendError status.code.name, .busyNotice operation] ∧
    (∀ before : List Counter,
      let totals := Counter.tally before
      let after := Counter.addAll totals answer.counters
      Counter.family after "git_overload_responses_total" =
        Counter.family totals "git_overload_responses_total" + 1 ∧
      Counter.total after "git_overload_responses_total" ("operation", operation.service) =
        Counter.total totals "git_overload_responses_total" ("operation", operation.service) + 1 ∧
      Counter.family after "git_backend_errors_total" =
        Counter.family totals "git_backend_errors_total" + 1 ∧
      Counter.total after "git_backend_errors_total" ("code", status.code.name) =
        Counter.total totals "git_backend_errors_total" ("code", status.code.name) + 1) ∧
    Line.readAll notice = ⟨lines, none, []⟩ ∧ ∀ line ∈ lines, line.size ≤ 281 := by
  intro shown notice lines rendered answer
  have overloaded : error.status?.any Status.isOverloaded = true := by
    rw [carried]
    exact List.any_eq_true.mpr ⟨_, limit, rfl⟩
  have response : answer.response = busyResponse operation notice := by
    show (refusal error (some operation) id).response = _
    rw [refusal_response, if_pos overloaded]
  have label : errorLabel error = status.code.name := by
    rw [errorLabel, carried]
  have counters : answer.counters =
      [.backendError status.code.name, .busyNotice operation] := by
    show (refusal error (some operation) id).counters = _
    rw [refusal_counters, if_pos overloaded, label]
    rfl
  refine ⟨response, BusyNotice.write_memory_bounded operation id,
    (Overload.respond_memory overloaded operation id).reports,
    refusal_records overloaded operation id, counters, ?counted,
    BusyNotice.readAll_octets_bounded operation id, fun line => BusyNotice.size_le⟩
  case counted =>
    intro before totals after
    have once : ∀ p : Counter → Bool,
        p (.backendError status.code.name) ≠ p (.busyNotice operation) →
        Counter.sumOf after p = Counter.sumOf totals p + 1 := by
      intro p one
      show Counter.sumOf (Counter.addAll totals answer.counters) p = _
      rw [counters]
      exact Counter.sumOf_error_and_notice before one
    refine ⟨once _ ?_, once _ ?_, once _ ?_, once _ ?_⟩
    · simp [Counter.name]
    · simp [Counter.name, Counter.label]
    · simp [Counter.name]
    · simp [Counter.name, Counter.label]

/-- A fetch under an ID of 49 characters of four octets each, the longest line that there is. -/
theorem widest_id_is_told_in_full :
    let id := String.ofList (List.replicate 49 '𝄞')
    let status : Status := ⟨.unavailable, "full", [.other, .limitReached "full" 3]⟩
    let notice := BusyNotice.octets .uploadPack (CorrelationId.bounded id)
    let line := Line.data
      (Utf8.encode "ERR " ++ Utf8.encode (BusyNotice.message (CorrelationId.bounded id)))
    Detail.limitReached "full" 3 ∈ status.details ∧
      (refusal (.status status) (some .uploadPack) id).response = {
        status := 200
        headers := [("content-type", Utf8.encode "application/x-git-upload-pack-result"),
          ("cache-control", Utf8.encode "no-cache")]
        body := { octets := notice } } ∧
      (refusal (.status status) (some .uploadPack) id).counters =
        [.backendError "UNAVAILABLE", .busyNotice .uploadPack] ∧
      Line.readAll notice = ⟨[line], none, []⟩ ∧ line.size = 281 := by
  intro id status notice line
  have limit : Detail.limitReached "full" 3 ∈ status.details := .tail _ (.head _)
  have carried : (Backend.Error.status status).status? = some status := rfl
  have told := overload_is_told_in_full carried limit .uploadPack id
  have shown : (Utf8.encode (CorrelationId.bounded id)).length = 48 * 4 + 12 := by
    have long : CorrelationId.maxShown < id.length := by
      rw [String.length_ofList, List.length_replicate]
      decide
    have mark : (Utf8.encode CorrelationId.cutMark).length = 12 := by decide
    rw [CorrelationId.bounded_of_long long, Utf8.encode_append, List.length_append, mark,
      Utf8.encode, CorrelationId.toList_kept, String.toList_ofList, List.take_replicate,
      List.length_flatMap, List.map_replicate, List.sum_replicate_nat]
    rfl
  have size : line.size = 281 := by
    rw [BusyNotice.size_error_line, shown]
  exact ⟨limit, told.1, told.2.2.2.2.1, told.2.2.2.2.2.2.1, size⟩

end Proxy

end GitGateway
