import GitGateway.CorrelationId
import GitGateway.Proofs.Delivery

/-!
# The size of a busy notice

A correlation ID is as long as its client likes, but the ID that a client is shown is
not: `CorrelationId.length_encode_bounded` bounds it by 204 octets, 48 characters of four
octets each and the mark of a cut. So every frame of the notice about a bounded ID is
far below the limit of a frame (`BusyNotice.frames_fit`), and sending such a notice can
only fail where the sink does (`BusyNotice.write_delivery`).
-/

namespace GitGateway

/-! ## Octets of a text -/

namespace Utf8

theorem encode_append (a b : String) : encode (a ++ b) = encode a ++ encode b := by
  rw [encode, String.toList_append, List.flatMap_append]
  rfl

/-- A character takes at most four octets. -/
theorem length_encode_le (text : String) : (encode text).length ≤ 4 * text.toList.length := by
  rw [encode]
  induction text.toList with
  | nil => exact Nat.le_refl 0
  | cons c rest ih =>
    have hc := c.utf8Size_le_four
    rw [List.flatMap_cons, List.length_append, String.length_utf8EncodeChar, List.length_cons]
    omega

end Utf8

/-! ## Bounded IDs -/

namespace CorrelationId

/-- What is shown of an ID has at most 204 octets. -/
theorem length_encode_bounded (id : String) : (Utf8.encode (bounded id)).length ≤ 204 := by
  rw [bounded]
  split
  · -- nothing stands past the 48th character
    rename_i short
    have few : id.toList.length ≤ maxShown := by
      rwa [List.isEmpty_iff, List.drop_eq_nil_iff] at short
    have := Utf8.length_encode_le id
    rw [maxShown] at few
    omega
  · have mark : (Utf8.encode cutMark).length = 12 := by decide
    have cut := Utf8.length_encode_le (String.ofList (id.toList.take maxShown))
    rw [String.toList_ofList, List.length_take, maxShown] at cut
    rw [Utf8.encode_append, List.length_append, mark, maxShown]
    omega

end CorrelationId

/-! ## Notices about bounded IDs -/

namespace BusyNotice

/-- The words of the message in front of the ID. -/
theorem length_encode_opening : (Utf8.encode
    "GitLab is currently unable to handle this request due to load (ID ").length = 66 := by
  decide

/-- The message is its ID and 69 octets more. -/
theorem length_encode_message (id : String) :
    (Utf8.encode (message id)).length = (Utf8.encode id).length + 69 := by
  have closing : (Utf8.encode ").\n").length = 3 := by decide
  show (Utf8.encode ("GitLab is currently unable to handle this request due to load (ID " ++ id ++
    ").\n")).length = _
  rw [Utf8.encode_append, Utf8.encode_append, List.length_append, List.length_append,
    length_encode_opening, closing]
  omega

/-- Nothing that follows a length field in such a notice is longer than 277 octets. -/
theorem length_body_le {operation : Operation} {id : String} {frame : Frame}
    (h : frame ∈ frames operation (CorrelationId.bounded id)) : frame.body.length ≤ 277 := by
  have shown := CorrelationId.length_encode_bounded id
  have text := length_encode_message (CorrelationId.bounded id)
  have inner : report.length = 30 := by decide
  have mark : (Utf8.encode "ERR ").length = 4 := by decide
  cases operation with
  | receivePack =>
    simp only [frames, List.mem_cons, List.not_mem_nil, or_false] at h
    rcases h with rfl | rfl | rfl
    · simp only [Frame.body, List.length_cons]
      omega
    · simp only [Frame.body, List.length_cons]
      omega
    · exact Nat.zero_le _
  | uploadPack =>
    simp only [frames, List.mem_singleton] at h
    rw [h, Frame.body, Utf8.encode_append, List.length_append]
    omega

/-- **A notice about a bounded ID fits**, frame by frame. -/
theorem frames_fit (operation : Operation) (id : String) :
    ∀ frame ∈ frames operation (CorrelationId.bounded id), frame.Fits := by
  intro frame hmem
  exact Nat.le_trans (length_body_le hmem) (by decide)

/-- **Sending a notice about a bounded ID.** -/
theorem write_delivery {σ : Type} (sink : Sink σ) (session : Session σ) (operation : Operation)
    (id : String) :
    sink.Delivery session (octets operation (CorrelationId.bounded id))
      (write sink session operation (CorrelationId.bounded id)).1
      (write sink session operation (CorrelationId.bounded id)).2 :=
  Frame.writeAll_delivery sink session _ (frames_fit operation id)

end BusyNotice

end GitGateway
