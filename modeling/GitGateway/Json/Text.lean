import GitGateway.Text.Hex

/-!
# Strings as JSON writes them

A string literal is kept as what stands between its quotes, octets and `\u` code
units, because most strings are never looked at: whether the octets are UTF-8 and
the units pair up is asked only of those that are.

- `Text.scan` — the literal after an opening quote, with what follows it. Control
  characters and unknown escapes are refused;
- `Text.decode?` — the text of a literal. Code units outside the surrogates stand
  for themselves and a high one followed by a low one for one character; the
  octets of the whole must then be UTF-8.
-/

namespace GitGateway.Json

/-- A part of a string literal. -/
inductive Piece where
  | octet (b : UInt8)
  /-- A `\u` escape. -/
  | unit (code : Nat)
  deriving DecidableEq, Repr

/-- The inside of a string literal. -/
abbrev Text := List Piece

/-- The octet that a one-letter escape stands for. -/
def escape? (letter : UInt8) : Option UInt8 :=
  if letter = 0x22 ∨ letter = 0x5C ∨ letter = 0x2F then some letter
  else if letter = 0x62 then some 0x08
  else if letter = 0x66 then some 0x0C
  else if letter = 0x6E then some 0x0A
  else if letter = 0x72 then some 0x0D
  else if letter = 0x74 then some 0x09
  else none

namespace Text

/-- Reads a literal on to its closing quote; `seen` has the pieces before, last
first. -/
def scanAfter (seen : Text) : Bytes → Option (Text × Bytes)
  | [] => none
  | b :: rest =>
    if b = 0x22 then
      some (seen.reverse, rest)
    else if b = 0x5C then
      match rest with
      | [] => none
      | letter :: rest =>
        if letter = 0x75 then
          match rest with
          | p :: q :: r :: s :: rest =>
            match Hex.value? p, Hex.value? q, Hex.value? r, Hex.value? s with
            | some p, some q, some r, some s =>
              scanAfter (.unit (((p * 16 + q) * 16 + r) * 16 + s) :: seen) rest
            | _, _, _, _ => none
          | _ => none
        else
          match escape? letter with
          | some octet => scanAfter (.octet octet :: seen) rest
          | none => none
    else if b < 0x20 then
      none
    else
      scanAfter (.octet b :: seen) rest

/-- The literal whose opening quote was just read, and the octets after it. -/
def scan (input : Bytes) : Option (Text × Bytes) :=
  scanAfter [] input

theorem scanAfter_length_lt {seen body : Text} {input rest : Bytes}
    (h : scanAfter seen input = some (body, rest)) : rest.length < input.length := by
  fun_induction scanAfter seen input with
  | case2 =>
    simp only [Option.some.injEq, Prod.mk.injEq] at h
    simp [h.2]
  | _ =>
    first
      | exact absurd h (by simp)
      | (rename_i ih; have := ih h; simp only [List.length_cons]; omega)

/-! ## The text of a literal -/

/-- Whether a code unit opens a surrogate pair. -/
def isHigh (code : Nat) : Bool := 0xD800 ≤ code && code ≤ 0xDBFF

/-- Whether a code unit closes a surrogate pair. -/
def isLow (code : Nat) : Bool := 0xDC00 ≤ code && code ≤ 0xDFFF

/-- The octets of a literal, after those in `seen`, which are kept last first. -/
def octetsAfter (seen : Bytes) : Text → Option Bytes
  | [] => some seen.reverse
  | .octet b :: rest => octetsAfter (b :: seen) rest
  | .unit high :: .unit low :: rest =>
    if isHigh high then
      if isLow low then
        let code := 0x10000 + (high - 0xD800) * 0x400 + (low - 0xDC00)
        octetsAfter ((String.utf8EncodeChar (Char.ofNat code)).reverse ++ seen) rest
      else none
    else if isLow high then none
    else
      octetsAfter ((String.utf8EncodeChar (Char.ofNat high)).reverse ++ seen) (.unit low :: rest)
  | .unit code :: rest =>
    if isHigh code || isLow code then none
    else octetsAfter ((String.utf8EncodeChar (Char.ofNat code)).reverse ++ seen) rest

/-- The octets of a literal, if its code units pair up. -/
def octets? (body : Text) : Option Bytes :=
  octetsAfter [] body

/-- The text of a literal, if it has one. -/
def decode? (body : Text) : Option String :=
  (octets? body).bind Utf8.decode?

end Text

end GitGateway.Json
