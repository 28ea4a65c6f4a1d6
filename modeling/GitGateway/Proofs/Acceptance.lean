import GitGateway.Proofs.Streaming

/-!
# Which octets are a line

A line is read from exactly the octets that are written for it, digits of either case apart.

- `Hex.value?_eq_some_iff`, `PktLine.lengthOfField?_eq_some_iff`: what is read as a number
  is the digits of that number, in either case;
- `Line.read_eq_data_iff`, `Line.read_eq_flush_iff`: the octets of a line with a payload,
  and those of the flush packet, which has no digits with a case;
- `Line.reads_what_is_written`: the same against what the writer sends.

The reader has no limit of its own. Four digits go up to 65535, and the longest line is one
of 65520 octets, so fifteen lengths are read that are never written; they are kept apart in
the last statement, and `Line.overlong_line_is_read` is the first of them.
-/

namespace GitGateway

/-! ## Digits of either case -/

/-- An ASCII letter in lower case; any other octet as it is. -/
def Hex.lower (octet : UInt8) : UInt8 :=
  if 65 ≤ octet ∧ octet ≤ 90 then octet + 32 else octet

/-- What holds of two hundred and fifty-six numbers holds of every octet. -/
theorem Hex.forall_octet {p : UInt8 → Prop} (h : ∀ n < 256, p (UInt8.ofNat n)) (octet : UInt8) :
    p octet := by
  have of_number := h octet.toNat octet.toNat_lt_size
  rwa [UInt8.ofNat_toNat] at of_number

/-- The case of a digit plays no part in its value. -/
theorem Hex.value?_lower (octet : UInt8) : value? (lower octet) = value? octet :=
  forall_octet (p := fun octet => value? (lower octet) = value? octet) (by decide +kernel) octet

/-- What has a value is the digit of it, in either case. -/
theorem Hex.lower_eq_digit {octet : UInt8} {value : Nat} (h : value? octet = some value) :
    value < 16 ∧ lower octet = digit value := by
  have all : ∀ octet, (value? octet).all fun v => v < 16 && lower octet == digit v :=
    forall_octet (by decide +kernel)
  have this := all octet
  rw [h] at this
  simpa using this

/-- Only a zero is a zero in lower case. -/
theorem Hex.eq_zero_of_lower (octet : UInt8) : lower octet = digit 0 → octet = digit 0 :=
  forall_octet (p := fun octet => lower octet = digit 0 → octet = digit 0) (by decide +kernel) octet

/-- **A digit is read** exactly where it stands, in either case. -/
theorem Hex.value?_eq_some_iff {octet : UInt8} {value : Nat} :
    value? octet = some value ↔ value < 16 ∧ lower octet = digit value := by
  constructor
  · exact lower_eq_digit
  · rintro ⟨small, same⟩
    rw [← value?_lower, same, value?_digit small]

namespace PktLine

/-- The four digits of a number. -/
def digits (n : Nat) : Bytes :=
  [Hex.digit (n / 4096 % 16), Hex.digit (n / 256 % 16), Hex.digit (n / 16 % 16),
    Hex.digit (n % 16)]

/-- A length field is the four digits of the length of the line. -/
theorem lengthField_eq_digits (length : Nat) :
    lengthField length = digits (length + fieldLength) := rfl

/-- **A number is read** exactly where its four digits stand, in either case. -/
theorem lengthOfField?_eq_some_iff {a b c d : UInt8} {n : Nat} :
    lengthOfField? a b c d = some n ↔ n < 65536 ∧ [a, b, c, d].map Hex.lower = digits n := by
  simp only [lengthOfField?, Option.bind_eq_bind, Option.bind_eq_some_iff, Option.pure_def,
    Option.some.injEq, Hex.value?_eq_some_iff, digits, List.map_cons, List.map_nil,
    List.cons.injEq, and_true]
  constructor
  · rintro ⟨va, ⟨sa, ha⟩, vb, ⟨sb, hb⟩, vc, ⟨sc, hc⟩, vd, ⟨sd, hd⟩, rfl⟩
    have first : (((va * 16 + vb) * 16 + vc) * 16 + vd) / 4096 % 16 = va := by omega
    have second : (((va * 16 + vb) * 16 + vc) * 16 + vd) / 256 % 16 = vb := by omega
    have third : (((va * 16 + vb) * 16 + vc) * 16 + vd) / 16 % 16 = vc := by omega
    have fourth : (((va * 16 + vb) * 16 + vc) * 16 + vd) % 16 = vd := by omega
    rw [first, second, third, fourth]
    exact ⟨by omega, ha, hb, hc, hd⟩
  · rintro ⟨small, ha, hb, hc, hd⟩
    have below : ∀ m, m % 16 < 16 := fun m => Nat.mod_lt m (by decide)
    exact ⟨_, ⟨below _, ha⟩, _, ⟨below _, hb⟩, _, ⟨below _, hc⟩, _, ⟨below _, hd⟩, by omega⟩

end PktLine

namespace Line

open PktLine

/-! ## The octets of a line -/

/-- A run of octets with its length field in lower case. -/
def lowered (input : Bytes) : Bytes :=
  (input.take fieldLength).map Hex.lower ++ input.drop fieldLength

/-- A run that starts with a length field, but for the case, has four octets at least. -/
theorem exists_of_lowered {input tail : Bytes} {n : Nat} (h : lowered input = digits n ++ tail) :
    ∃ a b c d, input = a :: b :: c :: d :: tail ∧ [a, b, c, d].map Hex.lower = digits n := by
  match input with
  | [] | [_] | [_, _] | [_, _, _] =>
    have := congrArg List.length h
    simp only [lowered, digits, fieldLength, List.length_append, List.length_map, List.length_take,
      List.length_drop, List.length_cons, List.length_nil] at this
    omega
  | a :: b :: c :: d :: rest =>
    obtain ⟨field, rfl⟩ : [a, b, c, d].map Hex.lower = digits n ∧ rest = tail :=
      List.append_inj h rfl
    exact ⟨a, b, c, d, rfl, field⟩

/-- **The octets of a line with a payload**: its length field in either case, and the
payload. The length is anything that four digits can spell. -/
theorem read_eq_data_iff {input payload rest : Bytes} :
    read input = .ok (.data payload, rest) ↔ payload.length + fieldLength < 65536 ∧
      lowered input = lengthField payload.length ++ payload ++ rest := by
  rw [read_eq_iff, lengthField_eq_digits, List.append_assoc]
  constructor
  · intro h
    cases h with
    | data h =>
      obtain ⟨small, field⟩ := lengthOfField?_eq_some_iff.mp h
      exact ⟨small, congrArg (· ++ (payload ++ rest)) field⟩
  · rintro ⟨small, h⟩
    obtain ⟨a, b, c, d, rfl, field⟩ := exists_of_lowered h
    exact .data (lengthOfField?_eq_some_iff.mpr ⟨small, field⟩) rest

/-- **The octets of the flush packet.** -/
theorem read_eq_flush_iff {input rest : Bytes} :
    read input = .ok (.flush, rest) ↔ input = Frame.flush.octets ++ rest := by
  rw [read_eq_iff]
  constructor
  · intro h
    cases h with
    | flush h =>
      obtain ⟨-, field⟩ := lengthOfField?_eq_some_iff.mp h
      simp only [List.map_cons, digits, List.cons.injEq] at field
      obtain ⟨ha, hb, hc, hd, -⟩ := field
      rw [Hex.eq_zero_of_lower _ ha, Hex.eq_zero_of_lower _ hb, Hex.eq_zero_of_lower _ hc,
        Hex.eq_zero_of_lower _ hd]
      rfl
  · rintro rfl
    exact .flush rfl rest

/-! ## Against the writer -/

/-- **What is written is what is read**, digits of either case apart.

- For a payload that may be written: a run reads as it, and leaves a rest, exactly when the
  run, with its length field in lower case, is what is written for the payload and then the
  rest.
- The same for the flush packet, with the run as it is.
- A payload that is too long to be written is refused by the writer alone. It is read where
  its length field and its octets stand, if its length still has four digits. -/
theorem reads_what_is_written (input : Bytes) :
    let sent := fun frame : Frame => frame.write Sink.memory (Session.start ())
    (∀ payload rest, payload.length ≤ maxPayload →
      (read input = .ok (.data payload, rest) ↔
        (sent (.data payload)).1 = .ok () ∧
          lowered input = (sent (.data payload)).2.written ++ rest)) ∧
    (∀ rest, read input = .ok (.flush, rest) ↔
      (sent .flush).1 = .ok () ∧ input = (sent .flush).2.written ++ rest) ∧
    ∀ payload rest, maxPayload < payload.length →
      (sent (.data payload)).1 = .error (.oversized payload.length) ∧
      (read input = .ok (.data payload, rest) ↔
        payload.length + fieldLength < 65536 ∧
          lowered input = lengthField payload.length ++ payload ++ rest) := by
  intro sent
  have inMemory : ∀ frame, (sent frame).1 = frame.inMemory.1 ∧
      (sent frame).2.written = frame.inMemory.2 := Frame.write_memory (Session.start ())
  refine ⟨fun payload rest short => ?_, fun rest => ?_, fun payload rest long => ?_⟩
  · have fits : (Frame.data payload).Fits := short
    have octets : (Frame.data payload).octets = lengthField payload.length ++ payload := by
      simp [Frame.octets, Frame.parts]
    have spelled : payload.length + fieldLength < 65536 := by
      simp only [maxPayload, maxLine, fieldLength] at short ⊢
      omega
    obtain ⟨result, written⟩ := inMemory (.data payload)
    rw [result, written, Frame.inMemory, if_pos fits, octets, read_eq_data_iff]
    exact and_congr_left' (iff_of_true spelled rfl)
  · obtain ⟨result, written⟩ := inMemory .flush
    rw [result, written, read_eq_flush_iff]
    exact (and_iff_right rfl).symm
  · have unfit : ¬ (Frame.data payload).Fits := Nat.not_le_of_lt long
    obtain ⟨result, -⟩ := inMemory (.data payload)
    rw [result, Frame.inMemory, if_neg unfit]
    exact ⟨rfl, read_eq_data_iff⟩

/-- A line of one octet more than the longest is read as a line, although nothing could have
written it. -/
theorem overlong_line_is_read :
    let payload : Bytes := List.replicate 65517 97
    let input : Bytes := [102, 102, 102, 49] ++ payload
    maxLine < input.length ∧ read input = .ok (.data payload, []) ∧
      ((Frame.data payload).write Sink.memory (Session.start ())).1 ≠ .ok () := by
  intro payload input
  have length : payload.length = 65517 := List.length_replicate
  have field : lengthOfField? 102 102 102 49 = some (payload.length + fieldLength) := by
    rw [length]
    decide
  have read : read input = .ok (.data payload, []) := by
    have line := (Reading.data field []).read_eq
    rwa [List.append_nil] at line
  have unfit : ¬ (Frame.data payload).Fits := by
    show ¬ payload.length ≤ maxPayload
    rw [length]
    decide
  refine ⟨?_, read, ?_⟩
  · rw [List.length_append, length]
    decide
  · rw [(Frame.write_memory _ _).1, Frame.inMemory, if_neg unfit]
    intro accepted
    cases accepted

end Line

end GitGateway
