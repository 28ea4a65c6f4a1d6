import GitGateway.Text.Hex
import GitGateway.Toml.Space

/-!
# TOML numbers

- `Number.integer?` — a decimal integer with a sign and underscores between digits,
  or a hexadecimal, octal or binary one without a sign; 64 bits must hold it;
- `Number.float?` — a decimal with a fraction, an exponent or both, or one of the
  words `inf` and `nan`. No reader of settings asks for its value, so the answer
  is only that one is there; a decimal that rounds to infinity is refused.
-/

namespace GitGateway.Toml.Number

/-- The value of a digit of the given base. -/
def digit? (base : Nat) (c : Char) : Option Nat :=
  if c.toNat < 128 then
    (Hex.value? (UInt8.ofNat c.toNat)).filter (· < base)
  else none

/-- Digits with single underscores between them; `seen` has the digits before,
last first, and is never empty. -/
def digitsAfter (base : Nat) (seen : List Nat) : Rest → Option (List Nat × Rest)
  | '_' :: c :: rest =>
    match digit? base c with
    | some value => digitsAfter base (value :: seen) rest
    | none => none
  | ['_'] => none
  | c :: rest =>
    match digit? base c with
    | some value => digitsAfter base (value :: seen) rest
    | none => some (seen.reverse, c :: rest)
  | [] => some (seen.reverse, [])

/-- One digit or more. -/
def digits? (base : Nat) : Rest → Option (List Nat × Rest)
  | c :: rest =>
    match digit? base c with
    | some value => digitsAfter base [value] rest
    | none => none
  | [] => none

/-- The number that digits spell. -/
def value (base : Nat) (digits : List Nat) : Nat :=
  digits.foldl (fun value digit => value * base + digit) 0

/-- A sign (true: negative), if there is one. -/
def sign : Rest → Bool × Rest
  | '-' :: rest => (true, rest)
  | '+' :: rest => (false, rest)
  | text => (false, text)

/-- The digits of a decimal integer: a zero alone, or digits that do not start
with one. -/
def whole? : Rest → Option (List Nat × Rest)
  | '0' :: rest => some ([0], rest)
  | text => digits? 10 text

/-- The least and the greatest integer. -/
def inRange (n : Int) : Bool :=
  -0x8000000000000000 ≤ n && n < 0x8000000000000000

/-- An integer with a base of its own. -/
def based? (base : Nat) (text : Rest) : Option (Int × Rest) := do
  let (digits, rest) ← digits? base text
  let n : Int := value base digits
  if inRange n then return (n, rest) else none

/-- An integer. -/
def integer? : Rest → Option (Int × Rest)
  | '0' :: 'x' :: rest => based? 16 rest
  | '0' :: 'o' :: rest => based? 8 rest
  | '0' :: 'b' :: rest => based? 2 rest
  | text => do
    let (negative, rest) := sign text
    let (digits, rest) ← whole? rest
    let n : Int := value 10 digits
    let n := if negative then -n else n
    if inRange n then return (n, rest) else none

/-! ## Floats -/

/-- A decimal that was read: its digits, and the power of ten that goes with them. -/
structure Decimal where
  digits : List Nat
  power : Int
  deriving DecidableEq, Repr

/-- Whether a decimal rounds to infinity, in exact arithmetic. -/
def Decimal.isInfinite (decimal : Decimal) : Bool :=
  let significand := value 10 decimal.digits
  if significand = 0 then false
  else
    let bound := Nat.pow 2 1024 - Nat.pow 2 970
    if 0 ≤ decimal.power then
      309 ≤ decimal.power || bound ≤ significand * Nat.pow 10 decimal.power.toNat
    else if decimal.digits.length ≤ decimal.power.natAbs then false
    else bound * Nat.pow 10 decimal.power.natAbs ≤ significand

/-- The fraction behind a point. -/
def fraction? : Rest → Option (Option (List Nat) × Rest)
  | '.' :: rest => (digits? 10 rest).map fun (digits, rest) => (some digits, rest)
  | text => some (none, text)

/-- The exponent behind its letter. -/
def exponent? : Rest → Option (Option Int × Rest)
  | [] => some (none, [])
  | c :: rest =>
    if c == 'e' || c == 'E' then do
      let (negative, rest) := sign rest
      let (digits, rest) ← digits? 10 rest
      let n : Int := value 10 digits
      return (some (if negative then -n else n), rest)
    else
      some (none, c :: rest)

/-- The words for what no decimal spells. -/
def special? : Rest → Option Rest
  | 'i' :: 'n' :: 'f' :: rest => some rest
  | 'n' :: 'a' :: 'n' :: rest => some rest
  | _ => none

/-- What stands where a float might be. -/
inductive Found where
  /-- A float, and what follows it. -/
  | float (rest : Rest)
  /-- No float, but perhaps an integer. -/
  | nothing
  /-- A float that is malformed or out of range. -/
  | refused

/-- Looks for a decimal with a fraction or an exponent. -/
def decimalFloat (text : Rest) : Found :=
  let (negative, unsigned) := sign text
  match whole? unsigned with
  | none => .nothing
  | some (whole, rest) =>
    match fraction? rest with
    | none => .refused
    | some (fraction, rest) =>
      match exponent? rest with
      | none => .refused
      | some (exponent, rest) =>
        if fraction.isNone && exponent.isNone then .nothing
        else
          let places := fraction.getD []
          let decimal : Decimal := ⟨whole ++ places, exponent.getD 0 - places.length⟩
          if !negative && decimal.isInfinite then .refused else .float rest

/-- Looks for a float. -/
def float (text : Rest) : Found :=
  match decimalFloat text with
  | .nothing =>
    match special? (sign text).2 with
    | some rest => .float rest
    | none => .nothing
  | found => found

end GitGateway.Toml.Number
