import GitGateway.Text.Utf8

/-!
# Hexadecimal digits

Digits are written in lower case and read in either.
-/

namespace GitGateway.Hex

/-- The digit of a value below sixteen. -/
def digit (value : Nat) : UInt8 :=
  UInt8.ofNat (if value < 10 then 48 + value else 87 + value)

/-- The value of a digit. -/
def value? (digit : UInt8) : Option Nat :=
  if 48 ≤ digit ∧ digit ≤ 57 then some (digit.toNat - 48)
  else if 97 ≤ digit ∧ digit ≤ 102 then some (digit.toNat - 87)
  else if 65 ≤ digit ∧ digit ≤ 70 then some (digit.toNat - 55)
  else none

/-- The digits of a number, without leading zeros. -/
def numeral (n : Nat) : List Char :=
  Nat.toDigits 16 n

end GitGateway.Hex
