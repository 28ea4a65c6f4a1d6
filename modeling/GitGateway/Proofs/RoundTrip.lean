import GitGateway.PktLine.Line
import GitGateway.Proofs.Delivery

/-!
# Frames read back

What is written as frames is read as lines, frame by frame, whatever the payloads hold
and whatever follows.

- `lengthOfField?_digits`: four digits of a number below 65536 spell that number;
- `Line.read_of_field`: what a line with a given length field reads as;
- `Line.read_octets`: a frame that fits is read back as its line, and nothing after it
  is touched;
- `Frame.script_reads_back`: the run over a whole list of frames, where one that is too
  long is refused and leaves nothing behind for the others to trip over.

Payloads are arbitrary octets. That one may look like a length field or like a flush
packet plays no part: the reader takes as many octets as the field says.
-/

namespace GitGateway

/-! ## The length field -/

/-- A digit reads back as its value. -/
theorem Hex.value?_digit {value : Nat} (h : value < 16) : Hex.value? (Hex.digit value) = some value := by
  -- all sixteen of them
  have all : ∀ v < 16, Hex.value? (Hex.digit v) = some v := by decide
  exact all value h

/-- Four digits spell the number that they were taken from. -/
theorem PktLine.lengthOfField?_digits {n : Nat} (h : n < 65536) :
    lengthOfField? (Hex.digit (n / 4096 % 16)) (Hex.digit (n / 256 % 16))
      (Hex.digit (n / 16 % 16)) (Hex.digit (n % 16)) = some n := by
  have small : ∀ m, m % 16 < 16 := fun m => Nat.mod_lt m (by decide)
  rw [lengthOfField?, Hex.value?_digit (small _), Hex.value?_digit (small _),
    Hex.value?_digit (small _), Hex.value?_digit (small _)]
  -- the first digit needs no remainder: the number is below sixteen to the fourth
  show some (((n / 4096 % 16 * 16 + n / 256 % 16) * 16 + n / 16 % 16) * 16 + n % 16) = some n
  congr 1
  omega

/-! ## One line -/

namespace Line

/-- A line whose field announces `n` octets is read if they are there. -/
theorem read_of_field {a b c d : UInt8} {n : Nat}
    (h : PktLine.lengthOfField? a b c d = some (n + PktLine.fieldLength)) (tail : Bytes) :
    read (a :: b :: c :: d :: tail) =
      if tail.length < n then
        .error (.truncated (n + PktLine.fieldLength) (tail.length + PktLine.fieldLength))
      else .ok (.data (tail.take n), tail.drop n) := by
  have large : ¬ n + 4 < 4 := Nat.not_lt.mpr (Nat.le_add_left 4 n)
  simp only [read, h, PktLine.fieldLength, large, if_false, Nat.add_sub_cancel, List.splitAt_eq,
    List.length_take, List.length_cons]
  by_cases short : tail.length < n
  · rw [if_pos short, if_pos (Nat.lt_of_le_of_lt (Nat.min_le_right ..) short)]
  · rw [if_neg short, if_neg (by omega)]

/-- A field that was written for a payload reads as its length. -/
theorem read_lengthField {payload : Bytes} (h : payload.length ≤ PktLine.maxPayload)
    (tail : Bytes) :
    read (PktLine.lengthField payload.length ++ payload ++ tail) = .ok (.data payload, tail) := by
  have field := PktLine.lengthOfField?_digits (n := payload.length + PktLine.fieldLength)
    (by simp only [PktLine.maxPayload, PktLine.maxLine, PktLine.fieldLength] at h ⊢; omega)
  rw [List.append_assoc]
  refine (read_of_field field (payload ++ tail)).trans ?_
  rw [if_neg (by simp), List.take_left, List.drop_left]

end Line

/-- What a frame reads as. -/
def Frame.line : Frame → Line
  | .data payload => .data payload
  | .banded band payload => .data (band.octet :: payload)
  | .flush => .flush

namespace Line

/-- **A frame reads back**, whatever comes after it. -/
theorem read_octets {frame : Frame} (h : frame.Fits) (tail : Bytes) :
    read (frame.octets ++ tail) = .ok (frame.line, tail) := by
  cases frame with
  | data payload =>
    have octets : (Frame.data payload).octets = PktLine.lengthField payload.length ++ payload := by
      simp [Frame.octets, Frame.parts]
    rw [octets]
    exact read_lengthField h tail
  | banded band payload =>
    have octets : (Frame.banded band payload).octets =
        PktLine.lengthField (band.octet :: payload).length ++ (band.octet :: payload) := by
      simp [Frame.octets, Frame.parts]
    rw [octets]
    exact read_lengthField h tail
  | flush => rfl

/-- Reads a given number of lines, one after the other. -/
def readTimes : Nat → Bytes → Except LineError (List Line × Bytes)
  | 0, input => .ok ([], input)
  | count + 1, input =>
    match read input with
    | .error e => .error e
    | .ok (line, rest) =>
      match readTimes count rest with
      | .error e => .error e
      | .ok (lines, rest) => .ok (line :: lines, rest)

/-- **Frames read back in order**, and leave what comes after them. -/
theorem readTimes_octets {frames : List Frame} (h : ∀ frame ∈ frames, frame.Fits) (tail : Bytes) :
    readTimes frames.length (frames.flatMap Frame.octets ++ tail) =
      .ok (frames.map Frame.line, tail) := by
  induction frames with
  | nil => rfl
  | cons frame rest ih =>
    have head := read_octets (h frame (List.mem_cons_self ..)) (rest.flatMap Frame.octets ++ tail)
    have next := ih fun other hmem => h other (List.mem_cons_of_mem _ hmem)
    rw [List.flatMap_cons, List.append_assoc, List.length_cons, readTimes, head]
    simp only [next, List.map_cons]

end Line

/-! ## Scripts -/

namespace Frame

variable {σ : Type}

/-- Sends the frames one after the other, whatever becomes of each of them. Every frame
has its result, with the octets that it added to what the sink has taken. -/
def script (sink : Sink σ) (session : Session σ) :
    List Frame → List (Except WriteError Unit × Bytes) × Session σ
  | [] => ([], session)
  | frame :: rest =>
    let sent := frame.write sink session
    let later := script sink sent.2 rest
    ((sent.1, sent.2.written.drop session.written.length) :: later.1, later.2)

/-- What becomes of one frame of a script in memory. -/
def inMemory (frame : Frame) : Except WriteError Unit × Bytes :=
  if frame.Fits then (.ok (), frame.octets) else (.error (.oversized frame.body.length), [])

/-- One frame in memory: it is added as a whole, or refused as a whole. -/
theorem write_memory (session : Session Unit) (frame : Frame) :
    (frame.write Sink.memory session).1 = frame.inMemory.1 ∧
      (frame.write Sink.memory session).2.written = session.written ++ frame.inMemory.2 := by
  by_cases h : frame.Fits
  · rw [inMemory, if_pos h]
    exact (write_delivery h Sink.memory session).of_steady Sink.memory_steady
  · rw [inMemory, if_neg h, write_of_not_fits h]
    exact ⟨rfl, (List.append_nil _).symm⟩

/-- A script in memory, frame by frame: what one frame comes to does not hang on those
before it. -/
theorem script_memory (session : Session Unit) (frames : List Frame) :
    (script Sink.memory session frames).1 = frames.map inMemory ∧
      (script Sink.memory session frames).2.written =
        session.written ++ frames.flatMap fun frame => frame.inMemory.2 := by
  induction frames generalizing session with
  | nil => exact ⟨rfl, (List.append_nil _).symm⟩
  | cons frame rest ih =>
    obtain ⟨result, written⟩ := write_memory session frame
    obtain ⟨results, final⟩ := ih (frame.write Sink.memory session).2
    simp only [script, List.map_cons, List.flatMap_cons]
    constructor
    · rw [results, result, written, List.drop_left]
    · rw [final, written, List.append_assoc]

/-- Refused frames leave no trace among the octets of the others. -/
theorem flatMap_inMemory (frames : List Frame) :
    (frames.flatMap fun frame => frame.inMemory.2) =
      (frames.filter fun frame => frame.Fits).flatMap octets := by
  induction frames with
  | nil => rfl
  | cons frame rest ih =>
    rw [List.flatMap_cons, ih, inMemory]
    by_cases h : frame.Fits
    · simp [h]
    · simp [h]

/-- **A script reads back.** In memory every frame that fits succeeds and adds its
octets, and every other is refused as invalid input and adds none; in front of any tail,
what is in memory reads as one line for each frame that fits, in order, and the tail is
left. -/
theorem script_reads_back (frames : List Frame) (tail : Bytes) :
    let run := script Sink.memory (Session.start ()) frames
    let sent := frames.filter fun frame => frame.Fits
    run.1 = frames.map (fun frame =>
      if frame.body.length ≤ PktLine.maxPayload then (.ok (), frame.octets)
      else (.error (.oversized frame.body.length), [])) ∧
    (∀ length, (WriteError.oversized length).kind = .invalidInput) ∧
    Line.readTimes sent.length (run.2.written ++ tail) = .ok (sent.map line, tail) := by
  obtain ⟨results, written⟩ := script_memory (Session.start ()) frames
  refine ⟨results, fun _ => rfl, ?_⟩
  rw [written, flatMap_inMemory, Session.written_start, List.nil_append]
  have fits : ∀ frame ∈ frames.filter fun frame => frame.Fits, frame.Fits := by
    intro frame hmem
    simpa using (List.mem_filter.mp hmem).2
  exact Line.readTimes_octets fits tail

end Frame

end GitGateway
