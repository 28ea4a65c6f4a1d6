/-!
# Octets and text

Text travels as UTF-8. This module holds both directions.

- `Utf8.encode` — the octets of a text, character by character;
- `Utf8.front` — what stands at the front of a run of octets: a character, or a
  broken piece (the longest run that starts like a character but cannot become
  one, and at least one octet);
- `Utf8.pieces` — the whole run, cut into characters and broken pieces;
- `Utf8.decode?` — the text of a run without broken pieces;
- `Utf8.decodeLossy` — the text of any run, one U+FFFD for each broken piece.

Both readers go through `pieces`, so they agree wherever the strict one answers.
-/

namespace GitGateway

/-- A run of octets, as it travels on a connection or lies in a file. -/
abbrev Bytes := List UInt8

namespace Utf8

/-- The octets of a text. -/
def encode (text : String) : Bytes :=
  text.toList.flatMap String.utf8EncodeChar

/-! ## One character -/

/-- Reads the `owed` continuation octets of a character whose bits so far are
`bits`. The first of them lies between `low` and `high`, which shuts out
overlong forms, surrogates and values past U+10FFFF; the later ones lie anywhere
between `0x80` and `0xBF`. An octet that does not fit is left unread. -/
def follow : Nat → UInt8 → UInt8 → Nat → Bytes → Option Char × Bytes
  | 0, _, _, bits, rest => (some (Char.ofNat bits), rest)
  | _ + 1, _, _, _, [] => (none, [])
  | owed + 1, low, high, bits, b :: rest =>
    if low ≤ b ∧ b ≤ high then
      follow owed 0x80 0xBF (bits * 64 + b.toNat % 64) rest
    else
      (none, b :: rest)

/-- The character, or the broken piece (`none`), that starts with `b`, and the
octets after it. -/
def front (b : UInt8) (rest : Bytes) : Option Char × Bytes :=
  if b ≤ 0x7F then (some (Char.ofNat b.toNat), rest)
  else if 0xC2 ≤ b ∧ b ≤ 0xDF then follow 1 0x80 0xBF (b.toNat - 0xC0) rest
  else if b = 0xE0 then follow 2 0xA0 0xBF 0 rest
  else if b = 0xED then follow 2 0x80 0x9F 0xD rest
  else if 0xE1 ≤ b ∧ b ≤ 0xEF then follow 2 0x80 0xBF (b.toNat - 0xE0) rest
  else if b = 0xF0 then follow 3 0x90 0xBF 0 rest
  else if 0xF1 ≤ b ∧ b ≤ 0xF3 then follow 3 0x80 0xBF (b.toNat - 0xF0) rest
  else if b = 0xF4 then follow 3 0x80 0x8F 4 rest
  else (none, rest)

/-- What is left behind a character or a broken piece stood at the end of the run. -/
theorem follow_suffix (owed : Nat) (low high : UInt8) (bits : Nat) (rest : Bytes) :
    (follow owed low high bits rest).2 <:+ rest := by
  induction owed generalizing low high bits rest with
  | zero => exact List.suffix_refl _
  | succ owed ih =>
    cases rest with
    | nil => exact List.suffix_refl _
    | cons b rest =>
      rw [follow]
      split
      · exact (ih ..).trans (List.suffix_cons ..)
      · exact List.suffix_refl _

theorem front_suffix (b : UInt8) (rest : Bytes) : (front b rest).2 <:+ rest := by
  unfold front
  repeat' split
  all_goals first
    | exact List.suffix_refl _
    | exact follow_suffix ..

/-- Reading one piece never lengthens what is left. -/
theorem front_length_le (b : UInt8) (rest : Bytes) :
    (front b rest).2.length ≤ rest.length :=
  (front_suffix b rest).length_le

/-! ## A whole run -/

/-- Puts the pieces of a run behind those in `seen`, which are kept last first. -/
def piecesAfter (seen : List (Option Char)) : Bytes → List (Option Char)
  | [] => seen.reverse
  | b :: rest => piecesAfter ((front b rest).1 :: seen) (front b rest).2
termination_by run => run.length
decreasing_by exact Nat.lt_succ_of_le (front_length_le b rest)

/-- The characters of a run in order, `none` for each broken piece. -/
def pieces (run : Bytes) : List (Option Char) :=
  piecesAfter [] run

/-- The text of a run that is UTF-8 throughout. -/
def decode? (run : Bytes) : Option String :=
  ((pieces run).mapM id).map String.ofList

/-- The text of a run, with U+FFFD in place of each broken piece. -/
def decodeLossy (run : Bytes) : String :=
  String.ofList ((pieces run).map (·.getD '\uFFFD'))

/-- What holds of the empty run, and of any other if it holds of what is left behind its first
piece, holds of all runs. -/
theorem induction {motive : Bytes → Prop} (nil : motive [])
    (cons : ∀ b rest, motive (front b rest).2 → motive (b :: rest)) : ∀ run, motive run
  | [] => nil
  | b :: rest => cons b rest (induction nil cons (front b rest).2)
termination_by run => run.length
decreasing_by exact Nat.lt_succ_of_le (front_length_le b rest)

theorem piecesAfter_eq (seen : List (Option Char)) (run : Bytes) :
    piecesAfter seen run = seen.reverse ++ pieces run := by
  rw [pieces]
  induction run using Utf8.induction generalizing seen with
  | nil => simp [piecesAfter]
  | cons b rest ih =>
    rw [piecesAfter, piecesAfter, ih, ih [_]]
    simp

@[simp] theorem pieces_nil : pieces [] = [] := by
  simp [pieces, piecesAfter]

theorem pieces_cons (b : UInt8) (rest : Bytes) :
    pieces (b :: rest) = (front b rest).1 :: pieces (front b rest).2 := by
  rw [pieces, piecesAfter, piecesAfter_eq]
  rfl

end Utf8

end GitGateway
