import GitGateway.Json.Numeral
import GitGateway.Json.Text

/-!
# JSON tokens

- `Token.next` — the token that starts with a given octet;
- `Token.scan` — all tokens of a text, blanks between them dropped.

No grammar puts two scalars side by side, so it does not matter where the longest
numeral or word ends: whatever follows it directly is refused later on.
-/

namespace GitGateway.Json

inductive Token where
  | openArray
  | closeArray
  | openObject
  | closeObject
  | comma
  | colon
  | null
  | boolean (value : Bool)
  | number (numeral : Numeral)
  | string (body : Text)
  deriving DecidableEq, Repr

/-- Space, tab, line feed and carriage return may stand between tokens. -/
def isSpace (b : UInt8) : Bool :=
  b == 0x20 || b == 0x09 || b == 0x0A || b == 0x0D

/-- Whether an octet is a decimal digit. -/
def isDigit (b : UInt8) : Bool :=
  0x30 ≤ b && b ≤ 0x39

/-- The values of the digits at the front, and the octets after them. -/
def digits (input : Bytes) : List Nat × Bytes :=
  ((input.takeWhile isDigit).map fun b => b.toNat - 0x30, input.dropWhile isDigit)

theorem digits_length_le (input : Bytes) : (digits input).2.length ≤ input.length :=
  (List.dropWhile_sublist isDigit).length_le

/-- One digit or more. -/
def digits? (input : Bytes) : Option (List Nat × Bytes) :=
  match digits input with
  | ([], _) => none
  | found => some found

theorem digits?_length_lt {input rest : Bytes} {found : List Nat}
    (h : digits? input = some (found, rest)) : rest.length < input.length := by
  unfold digits? at h
  split at h
  · simp at h
  · rename_i hne
    simp only [Option.some.injEq] at h
    cases input with
    | nil => exact absurd (by simp [digits]) (hne [])
    | cons b input =>
      by_cases hb : isDigit b = true
      · have hle := digits_length_le input
        simp only [digits, List.dropWhile_cons_of_pos hb, Prod.mk.injEq] at h hle
        simp only [List.length_cons, ← h.2]
        omega
      · exact absurd (by simp [digits, hb]) (hne (b :: input))

namespace Numeral

/-- The whole part: a zero alone, or digits that do not start with one. -/
def whole? (input : Bytes) : Option (List Nat × Bytes) :=
  match digits? input with
  | some (0 :: _ :: _, _) => none
  | found => found

/-- The fraction, if a point is next. -/
def fraction? (input : Bytes) : Option (Option (List Nat) × Bytes) :=
  match input with
  | 0x2E :: rest => (digits? rest).map fun (found, rest) => (some found, rest)
  | _ => some (none, input)

/-- The sign of an exponent (true: negative) and what follows it. -/
def exponentSign (input : Bytes) : Bool × Bytes :=
  match input with
  | 0x2D :: rest => (true, rest)
  | 0x2B :: rest => (false, rest)
  | _ => (false, input)

/-- The exponent, if its letter is next. -/
def exponent? (input : Bytes) : Option (Option (Bool × List Nat) × Bytes) :=
  match input with
  | [] => some (none, [])
  | b :: rest =>
    if b = 0x65 ∨ b = 0x45 then
      let (negative, rest) := exponentSign rest
      (digits? rest).map fun (found, rest) => (some (negative, found), rest)
    else
      some (none, input)

/-- The numeral at the front of a text, after its sign, and what follows it. -/
def scan? (negative : Bool) (input : Bytes) : Option (Numeral × Bytes) := do
  let (whole, rest) ← whole? input
  let (fraction, rest) ← fraction? rest
  let (exponent, rest) ← exponent? rest
  return (⟨negative, whole, fraction, exponent⟩, rest)

theorem whole?_length_lt {input rest : Bytes} {found : List Nat}
    (h : whole? input = some (found, rest)) : rest.length < input.length := by
  unfold whole? at h
  split at h
  · simp at h
  · exact digits?_length_lt h

theorem fraction?_length_le {input rest : Bytes} {found : Option (List Nat)}
    (h : fraction? input = some (found, rest)) : rest.length ≤ input.length := by
  unfold fraction? at h
  split at h
  · simp only [Option.map_eq_some_iff, Prod.exists, Prod.mk.injEq] at h
    obtain ⟨_, _, hd, _, rfl⟩ := h
    exact Nat.le_succ_of_le (Nat.le_of_lt (digits?_length_lt hd))
  · simp only [Option.some.injEq, Prod.mk.injEq] at h
    exact Nat.le_of_eq (h.2 ▸ rfl)

theorem exponentSign_length_le (input : Bytes) :
    (exponentSign input).2.length ≤ input.length := by
  unfold exponentSign
  split <;> simp

theorem exponent?_length_le {input rest : Bytes} {found : Option (Bool × List Nat)}
    (h : exponent? input = some (found, rest)) : rest.length ≤ input.length := by
  unfold exponent? at h
  split at h
  · simp only [Option.some.injEq, Prod.mk.injEq] at h
    simp [← h.2]
  · split at h
    · simp only [Option.map_eq_some_iff, Prod.exists, Prod.mk.injEq] at h
      obtain ⟨_, _, hd, _, rfl⟩ := h
      exact Nat.le_succ_of_le
        (Nat.le_trans (Nat.le_of_lt (digits?_length_lt hd)) (exponentSign_length_le _))
    · simp only [Option.some.injEq, Prod.mk.injEq] at h
      exact Nat.le_of_eq (h.2 ▸ rfl)

theorem scan?_length_lt {negative : Bool} {input rest : Bytes} {numeral : Numeral}
    (h : scan? negative input = some (numeral, rest)) : rest.length < input.length := by
  unfold scan? at h
  simp only [bind, Option.bind_eq_some_iff, Prod.exists, pure, Option.some.injEq,
    Prod.mk.injEq] at h
  obtain ⟨_, _, hw, _, _, hf, _, _, he, _, rfl⟩ := h
  exact Nat.lt_of_le_of_lt (exponent?_length_le he)
    (Nat.lt_of_le_of_lt (fraction?_length_le hf) (whole?_length_lt hw))

end Numeral

namespace Token

/-- The token that starts with `b`, and the octets after it. -/
def next (b : UInt8) (rest : Bytes) : Option (Token × Bytes) :=
  if b = 0x22 then (Text.scan rest).map fun (body, rest) => (.string body, rest)
  else if b = 0x2D then
    (Numeral.scan? true rest).map fun (numeral, rest) => (.number numeral, rest)
  else if isDigit b then
    (Numeral.scan? false (b :: rest)).map fun (numeral, rest) => (.number numeral, rest)
  else if b = 0x5B then some (.openArray, rest)
  else if b = 0x5D then some (.closeArray, rest)
  else if b = 0x7B then some (.openObject, rest)
  else if b = 0x7D then some (.closeObject, rest)
  else if b = 0x2C then some (.comma, rest)
  else if b = 0x3A then some (.colon, rest)
  else
    match b, rest with
    | 0x6E, 0x75 :: 0x6C :: 0x6C :: rest => some (.null, rest)
    | 0x74, 0x72 :: 0x75 :: 0x65 :: rest => some (.boolean true, rest)
    | 0x66, 0x61 :: 0x6C :: 0x73 :: 0x65 :: rest => some (.boolean false, rest)
    | _, _ => none

/-- A token takes at least its first octet. -/
theorem next_length_le {b : UInt8} {rest after : Bytes} {token : Token}
    (h : next b rest = some (token, after)) : after.length ≤ rest.length := by
  unfold next at h
  split at h
  · simp only [Option.map_eq_some_iff, Prod.exists, Prod.mk.injEq] at h
    obtain ⟨_, _, hs, _, rfl⟩ := h
    exact Nat.le_of_lt (Text.scanAfter_length_lt hs)
  · split at h
    · simp only [Option.map_eq_some_iff, Prod.exists, Prod.mk.injEq] at h
      obtain ⟨_, _, hs, _, rfl⟩ := h
      exact Nat.le_of_lt (Numeral.scan?_length_lt hs)
    · split at h
      · simp only [Option.map_eq_some_iff, Prod.exists, Prod.mk.injEq] at h
        obtain ⟨_, _, hs, _, rfl⟩ := h
        exact Nat.le_of_lt_succ (Numeral.scan?_length_lt hs)
      · repeat' split at h
        all_goals simp only [Option.some.injEq, Prod.mk.injEq, reduceCtorEq] at h
        all_goals simp only [← h.2, List.length_cons]
        all_goals omega

/-- The tokens of a text, after those in `seen`, which are kept last first. -/
def scanAfter (seen : List Token) : Bytes → Option (List Token)
  | [] => some seen.reverse
  | b :: rest =>
    if isSpace b then
      scanAfter seen rest
    else
      match h : next b rest with
      | none => none
      | some (token, after) =>
        have : after.length ≤ rest.length := next_length_le h
        scanAfter (token :: seen) after
termination_by input => input.length
decreasing_by
  · exact Nat.lt_succ_self _
  · exact Nat.lt_succ_of_le this

/-- The tokens of a text. -/
def scan (input : Bytes) : Option (List Token) :=
  scanAfter [] input

end Token

end GitGateway.Json
