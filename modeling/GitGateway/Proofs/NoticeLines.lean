import GitGateway.Proofs.Notice
import GitGateway.Proofs.RoundTrip

/-!
# What a client reads in a busy notice

A busy notice read back line by line, for every ID, bounded or not.

- `Line.readAll_octets`: frames that fit are read as their lines and nothing is left;
- `Frame.writeAll_memory`: in memory, frames go out up to the first that does not fit;
- `BusyNotice.reads_back`: the two notices. The report on a push is read in two steps,
  since it has lines of its own inside its frame, and its length fields have nothing to
  do with those outside. The message holds the ID octet by octet, whatever it looks like.

Both notices have a longest ID, not the same: on a push the message shares its frame
with the octet of the band, on a fetch with the word `ERR` and a blank.
-/

namespace GitGateway

/-! ## Reading all lines -/

namespace Line

/-- The lines of frames join those that were read before. -/
theorem readAfter_octets {frames : List Frame} (h : ∀ frame ∈ frames, frame.Fits)
    (seen : List Line) :
    readAfter seen (frames.flatMap Frame.octets) =
      ⟨seen.reverse ++ frames.map Frame.line, none, []⟩ := by
  induction frames generalizing seen with
  | nil => simp [readAfter]
  | cons frame rest ih =>
    have head := read_octets (h frame (List.mem_cons_self ..)) (rest.flatMap Frame.octets)
    rw [List.flatMap_cons, readAfter_of_read head,
      ih fun other hmem => h other (List.mem_cons_of_mem _ hmem)]
    simp

/-- **Frames are read as their lines**, up to the end. -/
theorem readAll_octets {frames : List Frame} (h : ∀ frame ∈ frames, frame.Fits) :
    readAll (frames.flatMap Frame.octets) = ⟨frames.map Frame.line, none, []⟩ :=
  readAfter_octets h []

end Line

/-! ## Frames in memory -/

namespace Frame

/-- Frames that fit go out, and those after them are next. -/
theorem writeAll_append_memory {first : List Frame} (h : ∀ frame ∈ first, frame.Fits)
    (rest : List Frame) (session : Session Unit) :
    ∃ mid : Session Unit, mid.written = session.written ++ first.flatMap octets ∧
      writeAll Sink.memory session (first ++ rest) = writeAll Sink.memory mid rest := by
  induction first generalizing session with
  | nil => exact ⟨session, (List.append_nil _).symm, rfl⟩
  | cons frame others ih =>
    have sent := write_delivery (h frame (List.mem_cons_self ..)) Sink.memory session
    obtain ⟨ok, written⟩ := sent.of_steady Sink.memory_steady
    -- memory takes all of the frame, so what comes after it starts from what it left
    obtain ⟨mid, written', same⟩ := ih (fun other hmem => h other (List.mem_cons_of_mem _ hmem))
      (frame.write Sink.memory session).2
    have step : writeAll Sink.memory session (frame :: (others ++ rest)) =
        writeAll Sink.memory (frame.write Sink.memory session).2 (others ++ rest) := by
      rw [writeAll]
      generalize frame.write Sink.memory session = outcome at ok
      obtain ⟨result, after⟩ := outcome
      obtain rfl : result = .ok () := ok
      rfl
    refine ⟨mid, ?_, step.trans same⟩
    rw [written', written, List.flatMap_cons, List.append_assoc]

/-- **Frames in memory** go out in full if they all fit, and read back as their lines. -/
theorem readAll_writeAll_memory {frames : List Frame} (h : ∀ frame ∈ frames, frame.Fits) :
    (writeAll Sink.memory (Session.start ()) frames).1 = .ok () ∧
      Line.readAll (writeAll Sink.memory (Session.start ()) frames).2.written =
        ⟨frames.map line, none, []⟩ := by
  have sent := writeAll_delivery Sink.memory (Session.start ()) frames h
  obtain ⟨ok, written⟩ := sent.of_steady Sink.memory_steady
  exact ⟨ok, by rw [written]; exact Line.readAll_octets h⟩

/-- A frame that does not fit is refused after the frames in front of it went out. -/
theorem writeAll_memory_refused {first : List Frame} (h : ∀ frame ∈ first, frame.Fits)
    {frame : Frame} (long : ¬ frame.Fits) (rest : List Frame) :
    (writeAll Sink.memory (Session.start ()) (first ++ frame :: rest)).1 =
        .error (.oversized frame.body.length) ∧
      (writeAll Sink.memory (Session.start ()) (first ++ frame :: rest)).2.written =
        first.flatMap octets := by
  obtain ⟨mid, written, same⟩ := writeAll_append_memory h (frame :: rest) (Session.start ())
  rw [same, writeAll, write_of_not_fits long]
  exact ⟨rfl, written⟩

end Frame

/-! ## The two notices -/

namespace BusyNotice

/-- The octets of the message: its words, with the ID as it is given between them. -/
theorem encode_message (id : String) : Utf8.encode (message id) =
    Utf8.encode "GitLab is currently unable to handle this request due to load (ID " ++
      Utf8.encode id ++ Utf8.encode ").\n" := by
  rw [← Utf8.encode_append, ← Utf8.encode_append]
  rfl

/-- The frames on a push: the report, and what comes after it. -/
theorem frames_receivePack (id : String) : frames .receivePack id =
    [.banded .data report] ++ [.banded .progress (Utf8.encode (message id)), .flush] := rfl

/-- The frame on a fetch. -/
theorem frames_uploadPack (id : String) : frames .uploadPack id =
    [] ++ [.data (Utf8.encode "ERR " ++ Utf8.encode (message id))] := by
  rw [← Utf8.encode_append]
  rfl

/-- The report fits, whatever comes after it. -/
theorem report_fits : ∀ frame ∈ [Frame.banded .data report], frame.Fits := by
  decide

/-- The report on a push has a line and a flush packet inside. -/
theorem readAll_report : Line.readAll report =
    ⟨[.data (Utf8.encode "unpack server is busy\n"), .flush], none, []⟩ := by
  have fits : ∀ frame ∈ [Frame.data (Utf8.encode unpackLine), .flush], frame.Fits := by decide
  exact Line.readAll_octets fits

/-- On a fetch four octets stand in front of the message. -/
theorem length_error_line (id : String) :
    (Utf8.encode "ERR " ++ Utf8.encode (message id)).length =
      (Utf8.encode (message id)).length + 4 := by
  have mark : (Utf8.encode "ERR ").length = 4 := by decide
  rw [List.length_append, mark, Nat.add_comm]

/-- A push that can be told. -/
theorem push_reads_back {id : String}
    (short : (Utf8.encode (message id)).length + 1 ≤ PktLine.maxPayload) :
    (write Sink.memory (Session.start ()) .receivePack id).1 = .ok () ∧
      Line.readAll (write Sink.memory (Session.start ()) .receivePack id).2.written =
        ⟨[.data (1 :: report), .data (2 :: Utf8.encode (message id)), .flush], none, []⟩ := by
  have fits : ∀ frame ∈ frames .receivePack id, frame.Fits := by
    rw [frames_receivePack]
    refine List.forall_mem_append.mpr ⟨report_fits, List.forall_mem_cons.mpr ⟨short, ?_⟩⟩
    exact List.forall_mem_singleton.mpr (Nat.zero_le _)
  exact Frame.readAll_writeAll_memory fits

/-- A push whose ID is too long: the report is out before that shows. -/
theorem push_refused {id : String}
    (long : PktLine.maxPayload < (Utf8.encode (message id)).length + 1) :
    (write Sink.memory (Session.start ()) .receivePack id).1 =
        .error (.oversized ((Utf8.encode (message id)).length + 1)) ∧
      (write Sink.memory (Session.start ()) .receivePack id).2.written =
        (Frame.banded .data report).octets := by
  have unfit : ¬ (Frame.banded .progress (Utf8.encode (message id))).Fits :=
    Nat.not_le_of_lt long
  -- the report goes out before the length of the message is looked at
  have refused := Frame.writeAll_memory_refused report_fits unfit [.flush]
  rw [← frames_receivePack, List.flatMap_singleton] at refused
  exact refused

/-- A fetch that can be told. -/
theorem fetch_reads_back {id : String}
    (short : (Utf8.encode (message id)).length + 4 ≤ PktLine.maxPayload) :
    (write Sink.memory (Session.start ()) .uploadPack id).1 = .ok () ∧
      Line.readAll (write Sink.memory (Session.start ()) .uploadPack id).2.written =
        ⟨[.data (Utf8.encode "ERR " ++ Utf8.encode (message id))], none, []⟩ := by
  have fits : ∀ frame ∈ frames .uploadPack id, frame.Fits := by
    rw [← length_error_line] at short
    rw [frames_uploadPack]
    exact List.forall_mem_singleton.mpr short
  have sent := Frame.readAll_writeAll_memory fits
  rw [frames_uploadPack] at sent
  rw [write, frames_uploadPack]
  exact sent

/-- A fetch whose ID is too long: its one frame is refused. -/
theorem fetch_refused {id : String}
    (long : PktLine.maxPayload < (Utf8.encode (message id)).length + 4) :
    (write Sink.memory (Session.start ()) .uploadPack id).1 =
        .error (.oversized ((Utf8.encode (message id)).length + 4)) ∧
      (write Sink.memory (Session.start ()) .uploadPack id).2.written = [] := by
  rw [← length_error_line] at long ⊢
  have unfit : ¬ (Frame.data (Utf8.encode "ERR " ++ Utf8.encode (message id))).Fits :=
    Nat.not_le_of_lt long
  have refused := Frame.writeAll_memory_refused (List.forall_mem_nil _) unfit []
  rw [← frames_uploadPack] at refused
  exact refused

/-- **A busy notice reads back**, whatever the ID is.

- On a push, if the message fits in a frame with the octet of its band: three lines and
  nothing after them, the report, the message and the flush packet. If it does not fit,
  it is refused as invalid input when just the frame of the report went out.
- On a fetch, if the message fits with the word in front of it: one line and nothing
  after it. If it does not fit, it is refused as invalid input and nothing went out.
- The report in turn reads as its one line and a flush packet. -/
theorem reads_back (id : String) :
    let text := Utf8.encode "GitLab is currently unable to handle this request due to load (ID " ++
      Utf8.encode id ++ Utf8.encode ").\n"
    let push := write Sink.memory (Session.start ()) .receivePack id
    let fetch := write Sink.memory (Session.start ()) .uploadPack id
    (text.length + 1 ≤ PktLine.maxPayload → push.1 = .ok () ∧
      Line.readAll push.2.written =
        ⟨[.data (1 :: report), .data (2 :: text), .flush], none, []⟩) ∧
    (PktLine.maxPayload < text.length + 1 → push.1 = .error (.oversized (text.length + 1)) ∧
      push.2.written = (Frame.banded .data report).octets) ∧
    (text.length + 4 ≤ PktLine.maxPayload → fetch.1 = .ok () ∧
      Line.readAll fetch.2.written = ⟨[.data (Utf8.encode "ERR " ++ text)], none, []⟩) ∧
    (PktLine.maxPayload < text.length + 4 → fetch.1 = .error (.oversized (text.length + 4)) ∧
      fetch.2.written = []) ∧
    (∀ length, (WriteError.oversized length).kind = .invalidInput) ∧
    Line.readAll report = ⟨[.data (Utf8.encode "unpack server is busy\n"), .flush], none, []⟩ := by
  intro text push fetch
  have words : Utf8.encode (message id) = text := encode_message id
  rw [← words]
  exact ⟨push_reads_back, push_refused, fetch_reads_back, fetch_refused, fun _ => rfl,
    readAll_report⟩

end BusyNotice

end GitGateway
