import GitGateway.Text.Hex

/-!
# The length field of a pkt-line

A pkt-line opens with four hexadecimal digits, the length of the whole line with
the field itself. Lower-case digits are written, and digits of either case are
read.

- `PktLine.maxPayload` — the most octets that may follow the field;
- `PktLine.lengthField` — the field of a payload of a given length;
- `PktLine.lengthOfField?` — the number that four octets spell, if they are digits.
-/

namespace GitGateway.PktLine

/-- The octets of a length field. -/
def fieldLength : Nat := 4

/-- The longest line, length field included. -/
def maxLine : Nat := 65520

/-- The longest payload. -/
def maxPayload : Nat := maxLine - fieldLength

/-- The length field in front of a payload of `length` octets. -/
def lengthField (length : Nat) : Bytes :=
  let total := length + fieldLength
  [Hex.digit (total / 4096 % 16), Hex.digit (total / 256 % 16), Hex.digit (total / 16 % 16),
    Hex.digit (total % 16)]

/-- The number that four octets spell in hexadecimal. -/
def lengthOfField? (a b c d : UInt8) : Option Nat := do
  let a ← Hex.value? a
  let b ← Hex.value? b
  let c ← Hex.value? c
  let d ← Hex.value? d
  return ((a * 16 + b) * 16 + c) * 16 + d

@[simp] theorem length_lengthField (length : Nat) : (lengthField length).length = fieldLength := rfl

end GitGateway.PktLine
