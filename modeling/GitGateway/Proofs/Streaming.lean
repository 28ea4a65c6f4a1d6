import GitGateway.Proofs.RoundTrip

/-!
# Reading a stream of lines

What a run of octets reads as does not change when more octets come in, so a stream can be
read as it arrives.

- `Line.Reading`: the relation of a run to what stands at its front, one rule for each
  thing that can stand there. `Line.read_eq_iff` says that it is what `Line.read` computes,
  and the lemmas below it take cases on the rules instead of opening the reader;
- `Line.Reads`: the same for all lines of a run;
- `Line.Batch.feed`: a reader of a stream. It keeps what is not a line yet, and looks at it
  again only when as many octets have come in as the line was said to need;
- `Line.read_is_stable`: a line stays the line that it is, an error that is final stays, and
  a line that is cut off says exactly how many octets it needs. Hence the reader of a stream
  gets the lines that it would have got from the whole, in whatever chunks they came.

That the number of octets needed is exact is what the reader of a stream relies on: were it
too large, it would wait for octets that never come, and were it too small, it would look at
the line before it is there.
-/

namespace GitGateway.Line

open PktLine

/-! ## What stands at the front of a run -/

/-- What a run of octets reads as. -/
inductive Reading : Bytes → Except LineError (Line × Bytes) → Prop where
  /-- Not even the length field is complete. -/
  | short {input : Bytes} (h : input.length < fieldLength) :
      Reading input (.error (.truncated fieldLength input.length))
  | noField {a b c d : UInt8} (h : lengthOfField? a b c d = none) (tail : Bytes) :
      Reading (a :: b :: c :: d :: tail) (.error (.invalidField [a, b, c, d]))
  | flush {a b c d : UInt8} (h : lengthOfField? a b c d = some 0) (rest : Bytes) :
      Reading (a :: b :: c :: d :: rest) (.ok (.flush, rest))
  /-- The length is too small for the field itself. -/
  | small {a b c d : UInt8} {n : Nat} (h : lengthOfField? a b c d = some n) (positive : 0 < n)
      (below : n < fieldLength) (tail : Bytes) :
      Reading (a :: b :: c :: d :: tail) (.error (.invalidLength n))
  /-- The payload is not all there. -/
  | cut {a b c d : UInt8} {n : Nat} (h : lengthOfField? a b c d = some (n + fieldLength))
      {tail : Bytes} (missing : tail.length < n) :
      Reading (a :: b :: c :: d :: tail)
        (.error (.truncated (n + fieldLength) (tail.length + fieldLength)))
  | data {a b c d : UInt8} {payload : Bytes}
      (h : lengthOfField? a b c d = some (payload.length + fieldLength)) (rest : Bytes) :
      Reading (a :: b :: c :: d :: (payload ++ rest)) (.ok (.data payload, rest))

/-- What the rules say is what is read. -/
theorem Reading.read_eq {input : Bytes} {result : Except LineError (Line × Bytes)}
    (h : Reading input result) : read input = result := by
  cases h with
  | short h =>
    match input, h with
    | [], _ | [_], _ | [_, _], _ | [_, _, _], _ => rfl
  | noField h tail => simp only [read, h]
  | flush h rest => simp only [read, h]
  | small h positive below tail =>
    rename_i n
    obtain rfl | rfl | rfl : n = 1 ∨ n = 2 ∨ n = 3 := by
      simp only [fieldLength] at below
      omega
    all_goals simp [read, h, fieldLength]
  | cut h missing => rw [read_of_field h, if_pos missing]
  | data h rest => rw [read_of_field h, if_neg (by simp), List.take_left, List.drop_left]

/-- A rule applies to every run. -/
theorem exists_reading (input : Bytes) : ∃ result, Reading input result := by
  match input with
  | [] | [_] | [_, _] | [_, _, _] => exact ⟨_, .short (by simp [fieldLength])⟩
  | a :: b :: c :: d :: tail =>
    cases h : lengthOfField? a b c d with
    | none => exact ⟨_, .noField h tail⟩
    | some length =>
      rcases Nat.lt_or_ge length fieldLength with below | enough
      · rcases Nat.eq_zero_or_pos length with rfl | positive
        · exact ⟨_, .flush h tail⟩
        · exact ⟨_, .small h positive below tail⟩
      · obtain ⟨n, rfl⟩ := Nat.exists_eq_add_of_le' enough
        rcases Nat.lt_or_ge tail.length n with missing | complete
        · exact ⟨_, .cut h missing⟩
        · have payload : (tail.take n).length = n := List.length_take_of_le complete
          rw [← payload] at h
          rw [← List.take_append_drop n tail]
          exact ⟨_, .data h _⟩

/-- **The rules are what is read.** -/
theorem read_eq_iff {input : Bytes} {result : Except LineError (Line × Bytes)} :
    read input = result ↔ Reading input result := by
  constructor
  · rintro rfl
    obtain ⟨result, h⟩ := exists_reading input
    rwa [h.read_eq]
  · exact Reading.read_eq

/-! ## More input -/

/-- A line stays as it is. -/
theorem Reading.append_line {input rest : Bytes} {line : Line}
    (h : Reading input (.ok (line, rest))) (more : Bytes) :
    Reading (input ++ more) (.ok (line, rest ++ more)) := by
  cases h with
  | flush h => exact .flush h (rest ++ more)
  | data h =>
    rw [List.cons_append, List.cons_append, List.cons_append, List.cons_append, List.append_assoc]
    exact .data h (rest ++ more)

/-- A field that spells no number stays one. -/
theorem Reading.append_noField {input field : Bytes}
    (h : Reading input (.error (.invalidField field))) (more : Bytes) :
    Reading (input ++ more) (.error (.invalidField field)) := by
  cases h with
  | noField h tail => exact .noField h (tail ++ more)

/-- A length that is too small stays too small. -/
theorem Reading.append_small {input : Bytes} {length : Nat}
    (h : Reading input (.error (.invalidLength length))) (more : Bytes) :
    Reading (input ++ more) (.error (.invalidLength length)) := by
  cases h with
  | small h positive below tail => exact .small h positive below (tail ++ more)

/-- A line that is cut off has fewer octets than it needs, and it needs a field at least. -/
theorem Reading.bounds_of_truncated {input : Bytes} {needed available : Nat}
    (h : Reading input (.error (.truncated needed available))) :
    available = input.length ∧ available < needed ∧ fieldLength ≤ needed := by
  cases h with
  | short h => exact ⟨rfl, h, Nat.le_refl _⟩
  | cut h missing => exact ⟨rfl, Nat.add_lt_add_right missing _, Nat.le_add_left ..⟩

/-- A line that is cut off stays so for as long as octets are missing. -/
theorem Reading.append_truncated {input : Bytes} {needed available : Nat}
    (h : Reading input (.error (.truncated needed available))) {more : Bytes}
    (missing : (input ++ more).length < needed) :
    Reading (input ++ more) (.error (.truncated needed (input ++ more).length)) := by
  cases h with
  | short h => exact .short missing
  | cut h =>
    rename_i a b c d n tail _
    have still : (tail ++ more).length < n := by
      simp only [List.cons_append, List.length_cons, fieldLength] at missing
      omega
    exact .cut h still

/-- A line whose length field was there is complete as soon as no octet is missing. -/
theorem Reading.append_complete {input : Bytes} {needed available : Nat}
    (h : Reading input (.error (.truncated needed available))) (known : fieldLength < needed)
    {more : Bytes} (complete : needed ≤ (input ++ more).length) :
    Reading (input ++ more)
      (.ok (.data (((input ++ more).take needed).drop fieldLength), (input ++ more).drop needed)) := by
  cases h with
  | short h => exact absurd known (Nat.lt_irrefl _)
  | cut h =>
    rename_i a b c d n tail _
    have enough : n ≤ (tail ++ more).length := by
      simp only [List.cons_append, List.length_cons, fieldLength] at complete
      omega
    have payload : ((tail ++ more).take n).length = n := List.length_take_of_le enough
    have line := Reading.data (payload.symm ▸ h) ((tail ++ more).drop n)
    rw [List.take_append_drop] at line
    exact line

/-- A line without a length field asks for no more than that once, since with the field
there is another number to be named, if any. -/
theorem Reading.not_field_again {input : Bytes} (complete : fieldLength ≤ input.length)
    (available : Nat) : ¬ Reading input (.error (.truncated fieldLength available)) := by
  generalize needs : fieldLength = needed
  intro h
  cases h with
  | short h => exact absurd h (Nat.not_lt.mpr complete)
  | cut h missing =>
    rename_i n tail
    have none_missing : n = 0 := by omega
    exact absurd missing (none_missing ▸ Nat.not_lt_zero _)

/-! ## All lines of a run -/

/-- What a run of octets reads as, up to its end or to an error. -/
inductive Reads : Bytes → Batch → Prop where
  | done : Reads [] ⟨[], none, []⟩
  | stopped {input : Bytes} {e : LineError} (nonempty : input ≠ []) (h : read input = .error e) :
      Reads input ⟨[], some e, input⟩
  | line {input rest : Bytes} {line : Line} {batch : Batch} (h : read input = .ok (line, rest))
      (later : Reads rest batch) :
      Reads input ⟨line :: batch.lines, batch.error, batch.rest⟩

/-- What the rules say is what is read, after the lines that were read before. -/
theorem Reads.readAfter_eq {input : Bytes} {batch : Batch} (h : Reads input batch)
    (seen : List Line) :
    readAfter seen input = ⟨seen.reverse ++ batch.lines, batch.error, batch.rest⟩ := by
  induction h generalizing seen with
  | done => simp [readAfter]
  | stopped nonempty h => rw [readAfter_of_error nonempty h, List.append_nil]
  | line h later ih => rw [readAfter_of_read h, ih, List.reverse_cons, List.append_assoc,
      List.singleton_append]

/-- The rules apply to every run, since every line takes octets away. -/
theorem exists_reads (input : Bytes) : ∃ batch, Reads input batch := by
  induction hn : input.length using Nat.strongRecOn generalizing input with
  | _ n ih =>
    by_cases nonempty : input = []
    · rw [nonempty]
      exact ⟨_, .done⟩
    · cases h : read input with
      | error e => exact ⟨_, .stopped nonempty h⟩
      | ok found =>
        obtain ⟨line, rest⟩ := found
        have shorter : rest.length < n := by
          have := length_lt_of_read h
          simp only [fieldLength] at this
          omega
        obtain ⟨batch, later⟩ := ih rest.length shorter rest rfl
        exact ⟨_, .line h later⟩

/-- **The rules are what is read**, line by line. -/
theorem readAll_eq_iff {input : Bytes} {batch : Batch} :
    readAll input = batch ↔ Reads input batch := by
  have sound : ∀ {found}, Reads input found → readAll input = found := fun h => h.readAfter_eq []
  constructor
  · rintro rfl
    obtain ⟨found, h⟩ := exists_reads input
    rwa [sound h]
  · exact sound

/-! ## A stream -/

/-- Reads on in what is left to read. -/
def Batch.readOn (batch : Batch) (pending : Bytes) : Batch :=
  let next := readAll pending
  ⟨batch.lines ++ next.lines, next.error, next.rest⟩

/-- Takes in one more chunk of a stream. While the line at the front is known to lack octets
it is not looked at, and neither is anything after an error that is final. -/
def Batch.feed (batch : Batch) (chunk : Bytes) : Batch :=
  let pending := batch.rest ++ chunk
  match batch.error with
  | none => batch.readOn pending
  | some (.truncated needed _) =>
    if pending.length < needed then
      ⟨batch.lines, some (.truncated needed pending.length), pending⟩
    else batch.readOn pending
  | some e => ⟨batch.lines, some e, pending⟩

/-- Nothing that was read before plays a part in what is read next. -/
theorem Batch.feed_cons (line : Line) (batch : Batch) (chunk : Bytes) :
    Batch.feed ⟨line :: batch.lines, batch.error, batch.rest⟩ chunk =
      ⟨line :: (batch.feed chunk).lines, (batch.feed chunk).error, (batch.feed chunk).rest⟩ := by
  obtain ⟨lines, error, rest⟩ := batch
  cases error with
  | none => rfl
  | some e =>
    cases e with
    | truncated needed available =>
      simp only [Batch.feed]
      split
      · rfl
      · rfl
    | invalidField field => rfl
    | invalidLength length => rfl

/-- **One more chunk** gives what the run with the chunk reads as. -/
theorem Reads.feed {input : Bytes} {batch : Batch} (h : Reads input batch) (chunk : Bytes) :
    Reads (input ++ chunk) (batch.feed chunk) := by
  have fresh : ∀ pending, Reads pending (Batch.readOn ⟨[], none, []⟩ pending) :=
    fun pending => readAll_eq_iff.mp rfl
  induction h with
  | done => exact fresh chunk
  | stopped nonempty h =>
    rename_i input e
    have nonempty' : input ++ chunk ≠ [] := List.append_ne_nil_of_left_ne_nil nonempty chunk
    have front := read_eq_iff.mp h
    cases e with
    | truncated needed available =>
      unfold Batch.feed
      dsimp only
      split
      · rename_i missing
        exact .stopped nonempty' (front.append_truncated missing).read_eq
      · exact fresh (input ++ chunk)
    | invalidField field => exact .stopped nonempty' (front.append_noField chunk).read_eq
    | invalidLength length => exact .stopped nonempty' (front.append_small chunk).read_eq
  | line h later ih =>
    have front := ((read_eq_iff.mp h).append_line chunk).read_eq
    rw [Batch.feed_cons]
    exact .line front ih

/-- A stream that is read chunk by chunk reads as the whole of it, whatever was read before
the first of the chunks. -/
theorem foldl_feed (input : Bytes) (chunks : List Bytes) :
    chunks.foldl Batch.feed (readAll input) = readAll (input ++ chunks.flatten) := by
  induction chunks generalizing input with
  | nil => rw [List.flatten_nil, List.append_nil, List.foldl_nil]
  | cons chunk later ih =>
    have next : (readAll input).feed chunk = readAll (input ++ chunk) :=
      (readAll_eq_iff.mpr ((readAll_eq_iff.mp rfl).feed chunk)).symm
    rw [List.foldl_cons, next, ih, List.flatten_cons, List.append_assoc]

/-- **Reading is stable under more input**, whatever comes in after a run of octets.

- A line stays the line that it is, and what comes in joins what is after it.
- A length field that spells no number, and a length that is too small, stay errors.
- A line that is cut off has all of the run, which is less than it needs. It is cut off for as
  long as octets are missing and needs the same number all the while. When they are there, it is
  a line of just that many octets, the field with them, and what follows is left; if it was only
  the field that was missing, then more of the field is not what is missing next.
- A stream that comes in chunks is read as the whole of it is. -/
theorem read_is_stable (input more : Bytes) :
    (∀ line rest, read input = .ok (line, rest) →
      read (input ++ more) = .ok (line, rest ++ more)) ∧
    (∀ field, read input = .error (.invalidField field) →
      read (input ++ more) = .error (.invalidField field)) ∧
    (∀ length, read input = .error (.invalidLength length) →
      read (input ++ more) = .error (.invalidLength length)) ∧
    (∀ needed available, read input = .error (.truncated needed available) →
      available = input.length ∧ available < needed ∧ fieldLength ≤ needed ∧
      ((input ++ more).length < needed →
        read (input ++ more) = .error (.truncated needed (input ++ more).length)) ∧
      (needed ≤ (input ++ more).length → fieldLength < needed →
        ∃ payload rest, read (input ++ more) = .ok (.data payload, rest) ∧
          payload.length = needed - fieldLength ∧
          payload = ((input ++ more).take needed).drop fieldLength ∧
          rest = (input ++ more).drop needed) ∧
      (needed ≤ (input ++ more).length → needed = fieldLength →
        ∀ available', read (input ++ more) ≠ .error (.truncated fieldLength available'))) ∧
    ∀ chunks : List Bytes, chunks.foldl Batch.feed ⟨[], none, []⟩ = readAll chunks.flatten := by
  refine ⟨?line, ?field, ?length, ?truncated, ?stream⟩
  case line => exact fun line rest h => ((read_eq_iff.mp h).append_line more).read_eq
  case field => exact fun field h => ((read_eq_iff.mp h).append_noField more).read_eq
  case length => exact fun length h => ((read_eq_iff.mp h).append_small more).read_eq
  case truncated =>
    intro needed available h
    have front := read_eq_iff.mp h
    obtain ⟨all, less, atLeast⟩ := front.bounds_of_truncated
    refine ⟨all, less, atLeast, fun missing => ?_, fun complete known => ?_, ?_⟩
    · exact (front.append_truncated missing).read_eq
    · refine ⟨_, _, (front.append_complete known complete).read_eq, ?_, rfl, rfl⟩
      rw [List.length_drop, List.length_take_of_le complete]
    · rintro complete rfl available' again
      exact Reading.not_field_again complete available' (read_eq_iff.mp again)
  case stream =>
    intro chunks
    have start : readAll [] = ⟨[], none, []⟩ := readAll_eq_iff.mpr .done
    rw [← start, foldl_feed, List.nil_append]

/-- A line that is cut off in its payload and completed by the next chunk, as part of a stream
that is also cut inside its length fields. -/
theorem split_stream_is_read :
    let front := Utf8.encode "000ahe"
    let next := Utf8.encode "llo\n00"
    let chunks := ["00", "0ahe", "llo\n00", "00", "00", "04"].map Utf8.encode
    read front = .error (.truncated 10 6) ∧
      read (front ++ next) = .ok (.data (Utf8.encode "hello\n"), Utf8.encode "00") ∧
      chunks.foldl Batch.feed ⟨[], none, []⟩ = readAll (Utf8.encode "000ahello\n00000004") := by
  intro front next chunks
  obtain ⟨-, -, -, truncated, stream⟩ := read_is_stable front next
  have cut : read front = .error (.truncated 10 6) := rfl
  obtain ⟨-, -, -, -, completed, -⟩ := truncated 10 6 cut
  obtain ⟨payload, rest, line, -, rfl, rfl⟩ := completed (by decide) (by decide)
  exact ⟨cut, line, stream chunks⟩

end GitGateway.Line
