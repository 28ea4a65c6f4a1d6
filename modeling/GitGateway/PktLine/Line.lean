import GitGateway.PktLine.Length
import GitGateway.Text.Quoted

/-!
# Reading pkt-lines

- `Line.read` — the first line of a run of octets, with what follows it;
- `Line.readAll` — all lines of a run, up to its end or to the first error.

A reader that waits for more input needs two numbers, which a cut-off line
carries: how many octets it has and how many it needs. The other two errors
are final, since no further octet mends them.
-/

namespace GitGateway

/-- A pkt-line that was read. -/
inductive Line where
  | data (payload : Bytes)
  | flush
  deriving DecidableEq, Repr

/-- Why no line stands at the front of a run of octets. -/
inductive LineError where
  /-- The run ends before the line does. -/
  | truncated (needed available : Nat)
  /-- The first four octets are not hexadecimal digits. -/
  | invalidField (field : Bytes)
  /-- The length is 1, 2 or 3, too small for the field itself. -/
  | invalidLength (length : Nat)
  deriving DecidableEq, Repr

/-- The wording of an error. -/
def LineError.message : LineError → String
  | .truncated needed available =>
    "truncated pkt-line: need " ++ toString needed ++ " bytes, have " ++ toString available
  | .invalidField field =>
    "invalid pkt-line length prefix " ++ Quoted.render (Utf8.decodeLossy field)
  | .invalidLength length => "invalid pkt-line length " ++ toString length

namespace Line

/-- The first line of `input` and the octets after it. -/
def read (input : Bytes) : Except LineError (Line × Bytes) :=
  match input with
  | a :: b :: c :: d :: rest =>
    match PktLine.lengthOfField? a b c d with
    | none => .error (.invalidField [a, b, c, d])
    | some 0 => .ok (.flush, rest)
    | some length =>
      if length < PktLine.fieldLength then
        .error (.invalidLength length)
      else
        let (payload, after) := rest.splitAt (length - PktLine.fieldLength)
        if payload.length < length - PktLine.fieldLength then
          .error (.truncated length input.length)
        else
          .ok (.data payload, after)
  | _ => .error (.truncated PktLine.fieldLength input.length)

/-- A line takes at least the four octets of its length field. -/
theorem length_lt_of_read {input rest : Bytes} {line : Line}
    (h : read input = .ok (line, rest)) : rest.length + PktLine.fieldLength ≤ input.length := by
  unfold read at h
  split at h
  · rename_i a b c d tail
    split at h
    · simp at h
    · simp only [Except.ok.injEq, Prod.mk.injEq] at h
      obtain ⟨-, rfl⟩ := h
      simp [PktLine.fieldLength]
    · split at h
      · simp at h
      · simp only [List.splitAt_eq] at h
        split at h
        · simp at h
        · simp only [Except.ok.injEq, Prod.mk.injEq] at h
          obtain ⟨-, rfl⟩ := h
          simp only [PktLine.fieldLength, List.length_drop, List.length_cons] at *
          omega
  · simp at h

/-- Lines that were read one after the other, why reading stopped (`none`: at the
end of the input), and what was left unread. -/
structure Batch where
  lines : List Line
  error : Option LineError
  rest : Bytes
  deriving DecidableEq, Repr

/-- Reads on after the lines in `seen`, which are kept last first. -/
def readAfter (seen : List Line) (input : Bytes) : Batch :=
  if input.isEmpty then
    ⟨seen.reverse, none, []⟩
  else
    match h : read input with
    | .error e => ⟨seen.reverse, some e, input⟩
    | .ok (line, rest) =>
      have : rest.length < input.length := by
        have := length_lt_of_read h
        simp only [PktLine.fieldLength] at this
        omega
      readAfter (line :: seen) rest
termination_by input.length

/-- One more line of a run. -/
theorem readAfter_of_read {input rest : Bytes} {line : Line} (h : read input = .ok (line, rest))
    (seen : List Line) : readAfter seen input = readAfter (line :: seen) rest := by
  have nonempty : input.isEmpty = false := by
    cases input with
    | nil => cases h
    | cons b tail => rfl
  rw [readAfter, nonempty, if_neg Bool.false_ne_true]
  split
  · rename_i failed
    rw [h] at failed
    cases failed
  · rename_i found
    rw [h] at found
    cases found
    rfl

/-- The end of a run at an error. -/
theorem readAfter_of_error {input : Bytes} {e : LineError} (nonempty : input ≠ [])
    (h : read input = .error e) (seen : List Line) :
    readAfter seen input = ⟨seen.reverse, some e, input⟩ := by
  rw [readAfter, List.isEmpty_eq_false_iff.mpr nonempty, if_neg Bool.false_ne_true]
  split
  · rename_i failed
    rw [h] at failed
    cases failed
    rfl
  · rename_i found
    rw [h] at found
    cases found

/-- Reads lines until the input is used up or an error occurs. -/
def readAll (input : Bytes) : Batch :=
  readAfter [] input

end Line

end GitGateway
