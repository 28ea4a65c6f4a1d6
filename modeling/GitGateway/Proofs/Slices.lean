import GitGateway.Proofs.Streaming

/-!
# Where the octets of a run go

Reading a run line by line comes to an end and loses nothing on the way.

- `Line.Slice`: the octets that one line is read from, which are its length field and its
  payload. `Line.read_eq_ok_iff` says that a read takes one slice off the front;
- `Line.readTimes_eq_ok_iff`: a number of reads in a row takes off as many slices;
- `Line.readAll_eq_iff_slices`: all lines of a run are those of its slices, up to a rest that is
  empty or has no line at its front;
- `Line.reading_loses_nothing`: **every octet of a run is in a slice or in the rest**, and there
  are no more reads than the run has fours of octets.

Nothing is asked of the run. Where it is cut off or damaged the rest starts, and the error that
is told is the one that the rest has by itself.
-/

namespace GitGateway.Line

open PktLine

/-! ## Slices -/

/-- What stands behind the length field of a line. -/
def payload : Line → Bytes
  | .data payload => payload
  | .flush => []

/-- The number in the length field of a line. That of the flush packet does not count itself. -/
def announced : Line → Nat
  | .data payload => payload.length + fieldLength
  | .flush => 0

/-- A line and the four octets in front of its payload, which spell its number. -/
structure Slice where
  a : UInt8
  b : UInt8
  c : UInt8
  d : UInt8
  line : Line
  spells : lengthOfField? a b c d = some line.announced

namespace Slice

/-- A slice as it stands in a run. -/
def octets (slice : Slice) : Bytes :=
  [slice.a, slice.b, slice.c, slice.d] ++ slice.line.payload

theorem length_octets (slice : Slice) :
    slice.octets.length = fieldLength + slice.line.payload.length := by
  rw [octets, List.length_append]
  rfl

/-- A slice is read as its line, whatever comes after it. -/
theorem read_octets_append (slice : Slice) (rest : Bytes) :
    read (slice.octets ++ rest) = .ok (slice.line, rest) := by
  obtain ⟨a, b, c, d, line, spells⟩ := slice
  cases line with
  | data payload => exact (Reading.data spells rest).read_eq
  | flush => exact (Reading.flush spells rest).read_eq

/-- Slices take four octets each, at least. -/
theorem length_mul_le (slices : List Slice) :
    slices.length * fieldLength ≤ (slices.flatMap octets).length := by
  induction slices with
  | nil => simp
  | cons slice later ih =>
    rw [List.flatMap_cons, List.length_append, length_octets, List.length_cons, Nat.succ_mul]
    omega

end Slice

/-- **One read** takes one slice off the front. -/
theorem read_eq_ok_iff {input rest : Bytes} {line : Line} :
    read input = .ok (line, rest) ↔
      ∃ slice : Slice, slice.line = line ∧ slice.octets ++ rest = input := by
  constructor
  · intro h
    cases read_eq_iff.mp h with
    | flush spells => exact ⟨⟨_, _, _, _, .flush, spells⟩, rfl, rfl⟩
    | data spells => exact ⟨⟨_, _, _, _, .data _, spells⟩, rfl, rfl⟩
  · rintro ⟨slice, rfl, rfl⟩
    exact slice.read_octets_append rest

/-- **Reads in a row** take off as many slices. -/
theorem readTimes_eq_ok_iff {count : Nat} {input rest : Bytes} {lines : List Line} :
    readTimes count input = .ok (lines, rest) ↔
      ∃ slices : List Slice, slices.length = count ∧ slices.map Slice.line = lines ∧
        slices.flatMap Slice.octets ++ rest = input := by
  induction count generalizing input lines with
  | zero =>
    constructor
    · rintro ⟨⟩
      exact ⟨[], rfl, rfl, rfl⟩
    · rintro ⟨slices, none_taken, rfl, rfl⟩
      obtain rfl := List.length_eq_zero_iff.mp none_taken
      rfl
  | succ count ih =>
    constructor
    · intro h
      rw [readTimes] at h
      split at h
      · cases h
      rename_i line middle first
      split at h
      · cases h
      rename_i others left later
      cases h
      obtain ⟨slice, rfl, rfl⟩ := read_eq_ok_iff.mp first
      obtain ⟨slices, rfl, rfl, rfl⟩ := ih.mp later
      exact ⟨slice :: slices, rfl, rfl, List.append_assoc ..⟩
    · rintro ⟨slices, taken, rfl, rfl⟩
      obtain ⟨slice, slices, rfl⟩ := List.exists_cons_of_length_eq_add_one taken
      have first := slice.read_octets_append (slices.flatMap Slice.octets ++ rest)
      have later := ih.mpr ⟨slices, Nat.succ.inj taken, rfl, rfl⟩
      rw [List.flatMap_cons, List.append_assoc, readTimes, first]
      simp only [later, List.map_cons]

/-! ## All lines of a run -/

/-- The lines of slices come first, and what is behind them is read as if it stood alone. -/
theorem Reads.slices {tail : Bytes} {batch : Batch} (h : Reads tail batch) (slices : List Slice) :
    Reads (slices.flatMap Slice.octets ++ tail)
      ⟨slices.map Slice.line ++ batch.lines, batch.error, batch.rest⟩ := by
  induction slices with
  | nil => exact h
  | cons slice later ih =>
    rw [List.flatMap_cons, List.append_assoc]
    exact .line (slice.read_octets_append _) ih

/-- Where reading may end: at the end of the run, or in front of octets that are no line. -/
inductive Ends : Option LineError → Bytes → Prop
  | done : Ends none []
  | stopped {e : LineError} {rest : Bytes} (nonempty : rest ≠ []) (h : read rest = .error e) :
    Ends (some e) rest

/-- Octets are left only where they are no line. -/
theorem Ends.empty_or_failed {error : Option LineError} {rest : Bytes} (h : Ends error rest) :
    rest = [] ∧ error = none ∨ rest ≠ [] ∧ ∃ e, error = some e ∧ read rest = .error e := by
  cases h with
  | done => exact .inl ⟨rfl, rfl⟩
  | stopped nonempty h => exact .inr ⟨nonempty, _, rfl, h⟩

/-- Where reading ends there is nothing more to be read. -/
theorem Ends.reads {error : Option LineError} {rest : Bytes} (h : Ends error rest) :
    Reads rest ⟨[], error, rest⟩ := by
  cases h with
  | done => exact .done
  | stopped nonempty h => exact .stopped nonempty h

/-- A run is cut into slices, in front of where reading ends. -/
theorem Reads.exists_slices {input : Bytes} {batch : Batch} (h : Reads input batch) :
    ∃ slices : List Slice, slices.map Slice.line = batch.lines ∧
      slices.flatMap Slice.octets ++ batch.rest = input ∧ Ends batch.error batch.rest := by
  induction h with
  | done => exact ⟨[], rfl, rfl, .done⟩
  | stopped nonempty h => exact ⟨[], rfl, rfl, .stopped nonempty h⟩
  | line h later ih =>
    obtain ⟨slice, rfl, rfl⟩ := read_eq_ok_iff.mp h
    obtain ⟨slices, lines, cut, ends⟩ := ih
    refine ⟨slice :: slices, congrArg _ lines, ?_, ends⟩
    rw [List.flatMap_cons, List.append_assoc, cut]

/-- **All lines of a run** are those of the slices that it is cut into. There is one way only to
cut it, up to where reading ends. -/
theorem readAll_eq_iff_slices {input : Bytes} {batch : Batch} :
    readAll input = batch ↔
      ∃ slices : List Slice, slices.map Slice.line = batch.lines ∧
        slices.flatMap Slice.octets ++ batch.rest = input ∧ Ends batch.error batch.rest := by
  rw [readAll_eq_iff]
  constructor
  · exact Reads.exists_slices
  · rintro ⟨slices, lines, rfl, ends⟩
    have reads := ends.reads.slices slices
    rwa [List.append_nil, lines] at reads

/-- As many reads succeed in a row as there are lines. -/
theorem exists_readTimes_iff {count : Nat} {input : Bytes} :
    (∃ found, readTimes count input = .ok found) ↔ count ≤ (readAll input).lines.length := by
  constructor
  · rintro ⟨⟨lines, rest⟩, h⟩
    obtain ⟨slices, rfl, -, rfl⟩ := readTimes_eq_ok_iff.mp h
    have behind : Reads rest (readAll rest) := readAll_eq_iff.mp rfl
    rw [readAll_eq_iff.mpr (behind.slices slices), List.length_append, List.length_map]
    exact Nat.le_add_right ..
  · intro few
    obtain ⟨slices, lines, cut, -⟩ := readAll_eq_iff_slices.mp (rfl : readAll input = _)
    rw [← lines, List.length_map] at few
    -- what is left of the slices is part of what the reads leave
    have parted : (slices.take count).flatMap Slice.octets ++
        ((slices.drop count).flatMap Slice.octets ++ (readAll input).rest) = input := by
      rw [← List.append_assoc, ← List.flatMap_append, List.take_append_drop, cut]
    have taken : (slices.take count).length = count := List.length_take_of_le few
    exact ⟨_, readTimes_eq_ok_iff.mpr ⟨slices.take count, taken, rfl, parted⟩⟩

/-- **Reading loses nothing**, whatever the run.

- A read that succeeds takes a slice off the front: the four octets of the length field and the
  payload of the line that is read.
- Reading comes to an end. As many reads in a row succeed as lines are found, and there are no
  more of them than the octets taken allow at four a read.
- The slices that were taken, one for each line, and what is left are the run, octet by octet.
- What is left is empty, or it has no line at its front: read by itself, it gives the error that
  is told. -/
theorem reading_loses_nothing (input : Bytes) :
    let batch := readAll input
    (∀ front line rest, read front = .ok (line, rest) →
      ∃ slice : Slice, slice.line = line ∧ slice.octets ++ rest = front ∧
        slice.octets.length = 4 + line.payload.length) ∧
    (∀ count, (∃ found, readTimes count input = .ok found) ↔ count ≤ batch.lines.length) ∧
    readTimes batch.lines.length input = .ok (batch.lines, batch.rest) ∧
    batch.lines.length * 4 + batch.rest.length ≤ input.length ∧
    (∃ slices : List Slice, slices.map Slice.line = batch.lines ∧
      slices.flatMap Slice.octets ++ batch.rest = input) ∧
    (batch.rest = [] ∧ batch.error = none ∨
      batch.rest ≠ [] ∧ ∃ e, batch.error = some e ∧ read batch.rest = .error e) := by
  intro batch
  obtain ⟨slices, lines, cut, ends⟩ := readAll_eq_iff_slices.mp (rfl : readAll input = batch)
  have number : slices.length = batch.lines.length := by rw [← lines, List.length_map]
  refine ⟨?one, fun count => exists_readTimes_iff, ?row, ?bound, ⟨slices, lines, cut⟩,
    ends.empty_or_failed⟩
  case one =>
    intro front line rest h
    obtain ⟨slice, rfl, same⟩ := read_eq_ok_iff.mp h
    exact ⟨slice, rfl, same, slice.length_octets⟩
  case row => exact readTimes_eq_ok_iff.mpr ⟨slices, number, lines, cut⟩
  case bound =>
    have least := Slice.length_mul_le slices
    rw [number] at least
    rw [← cut, List.length_append]
    exact Nat.add_le_add_right least _

/-- A flush packet, a line without a payload, one whose payload begins like a length field, and
one that is cut off. -/
theorem cut_run_loses_nothing :
    let input := Utf8.encode "00000004000A0000xy0009cut"
    let rest := Utf8.encode "0009cut"
    (∃ slices : List Slice,
      slices.map Slice.line = [.flush, .data [], .data (Utf8.encode "0000xy")] ∧
        slices.flatMap Slice.octets ++ rest = input) ∧
      (∀ count, (∃ found, readTimes count input = .ok found) ↔ count ≤ 3) ∧
      read rest = .error (.truncated 9 7) := by
  intro input rest
  have batch : readAll input = ⟨[.flush, .data [], .data (Utf8.encode "0000xy")],
      some (.truncated 9 7), rest⟩ :=
    readAll_eq_iff.mpr (.line rfl (.line rfl (.line rfl (.stopped (by decide) rfl))))
  obtain ⟨-, counts, -, -, slices, ends⟩ := reading_loses_nothing input
  rw [batch] at counts slices ends
  obtain ⟨nothing, -⟩ | ⟨-, e, told, failed⟩ := ends
  · exact absurd nothing (by decide)
  · cases told
    exact ⟨slices, counts, failed⟩

end GitGateway.Line
