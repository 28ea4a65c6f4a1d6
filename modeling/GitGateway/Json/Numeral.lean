import GitGateway.Text.Utf8

/-!
# Numbers as JSON writes them

A numeral keeps the digits of a number as they stand in the text. What a reader
wants of it is decided afterwards:

- `Numeral.natural?` — the value of a plain non-negative integer of at most 64 bits;
- `Numeral.isFinite` — whether the number has a place among the doubles. This is
  decided in exact arithmetic, from the leading digits that fit in 64 bits and the
  power of ten that the others leave.
-/

namespace GitGateway.Json

/-- A number, digit by digit. Whole digits have no leading zero; the fraction and
the exponent, where they are present, have at least one digit. -/
structure Numeral where
  negative : Bool
  whole : List Nat
  fraction : Option (List Nat)
  /-- The sign of the exponent (true: negative) and its digits. -/
  exponent : Option (Bool × List Nat)
  deriving DecidableEq, Repr

/-- The number that decimal digits spell. -/
def natOfDigits (digits : List Nat) : Nat :=
  digits.foldl (fun value digit => value * 10 + digit) 0

namespace Numeral

/-- The largest number of 64 bits. -/
def maxWord : Nat := 0xFFFFFFFFFFFFFFFF

/-- The value of a numeral without sign, fraction and exponent, if 64 bits hold it. -/
def natural? (numeral : Numeral) : Option Nat :=
  let value := natOfDigits numeral.whole
  if numeral.negative || numeral.fraction.isSome || numeral.exponent.isSome || maxWord < value then
    none
  else
    some value

/-! ## Range -/

/-- A significand and the power of ten that goes with it. -/
structure Scaled where
  significand : Nat
  power : Int
  deriving DecidableEq, Repr

/-- The first whole digits, as many as 64 bits hold; each one after them only
raises the power. -/
def scaleWhole : Scaled → List Nat → Scaled
  | scaled, [] => scaled
  | ⟨significand, power⟩, digit :: rest =>
    if maxWord < significand * 10 + digit then
      ⟨significand, power + (rest.length + 1)⟩
    else
      scaleWhole ⟨significand * 10 + digit, power⟩ rest

/-- The fraction digits that 64 bits still hold; the others are dropped. -/
def scaleFraction : Scaled → List Nat → Scaled
  | scaled, [] => scaled
  | ⟨significand, power⟩, digit :: rest =>
    if maxWord < significand * 10 + digit then
      ⟨significand, power⟩
    else
      scaleFraction ⟨significand * 10 + digit, power - 1⟩ rest

/-- The numeral's absolute value, but for digits that do not fit. -/
def scaled (numeral : Numeral) : Scaled :=
  let body := scaleFraction (scaleWhole ⟨0, 0⟩ numeral.whole) (numeral.fraction.getD [])
  match numeral.exponent with
  | none => body
  | some (negative, digits) =>
    let shift : Int := natOfDigits digits
    { body with power := if negative then body.power - shift else body.power + shift }

/-- A natural number rounded to the nearest one with at most 53 significant bits,
ties to the even one. -/
def round53 (n : Nat) : Nat :=
  let unit := Nat.pow 2 (n.log2 + 1 - 53)
  let quotient := n / unit
  let remainder := n % unit
  let up := unit < 2 * remainder || (unit == 2 * remainder && quotient % 2 == 1)
  (if up then quotient + 1 else quotient) * unit

/-- The least number that rounds up past the largest double. -/
def overflow : Nat := Nat.pow 2 1024 - Nat.pow 2 970

/-- Whether the number stays below the end of the doubles. Small numbers always
do; a large one is the product of two doubles, its significand and its power of
ten, and 10^308 is the last power of ten with a double. -/
def isFinite (numeral : Numeral) : Bool :=
  let ⟨significand, power⟩ := numeral.scaled
  if significand = 0 || power < 0 then true
  else if 308 < power then false
  else round53 significand * round53 (Nat.pow 10 power.toNat) < overflow

end Numeral

end GitGateway.Json
