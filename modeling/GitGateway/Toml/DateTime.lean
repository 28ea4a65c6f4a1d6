import GitGateway.Toml.Space

/-!
# TOML dates and times

A date, a time, or both with an offset from universal time or without. No reader
of settings asks for one, so the readers only tell whether one is there and where
it ends.
-/

namespace GitGateway.Toml.DateTime

/-- A number of exactly `count` decimal digits. -/
def fixed? (count : Nat) (text : Rest) : Option (Nat × Rest) :=
  let digits := text.take count
  if digits.length = count ∧ digits.all Char.isDigit then
    some (digits.foldl (fun value c => value * 10 + (c.toNat - '0'.toNat)) 0, text.drop count)
  else none

/-- A number of two digits between two bounds. -/
def between? (low high : Nat) (text : Rest) : Option (Nat × Rest) :=
  (fixed? 2 text).filter fun (n, _) => low ≤ n ∧ n ≤ high

/-- The days of a month. -/
def daysIn (year month : Nat) : Nat :=
  let leap := year % 4 == 0 && (year % 100 != 0 || year % 400 == 0)
  if month == 2 then (if leap then 29 else 28)
  else if month == 4 || month == 6 || month == 9 || month == 11 then 30
  else 31

/-- A date. -/
def date? (text : Rest) : Option Rest := do
  let (year, rest) ← fixed? 4 text
  let (month, rest) ← between? 1 12 (← char? '-' rest)
  let (_, rest) ← between? 1 (daysIn year month) (← char? '-' rest)
  return rest

/-- A fraction of a second, if one follows. -/
def skipFraction : Rest → Rest
  | '.' :: c :: rest => if c.isDigit then rest.dropWhile Char.isDigit else '.' :: c :: rest
  | text => text

/-- A time of day; a minute may have sixty-one seconds. -/
def time? (text : Rest) : Option Rest := do
  let (_, rest) ← between? 0 23 text
  let (_, rest) ← between? 0 59 (← char? ':' rest)
  let (_, rest) ← between? 0 60 (← char? ':' rest)
  return skipFraction rest

/-- An offset, if one follows. -/
def offset? : Rest → Option Rest
  | [] => some []
  | c :: rest =>
    if c == 'Z' || c == 'z' then some rest
    else if c == '+' || c == '-' then do
      let (_, rest) ← between? 0 23 rest
      let (_, rest) ← between? 0 59 (← char? ':' rest)
      return rest
    else some (c :: rest)

/-- A time and an offset behind a date, if they follow. -/
def timeOfDate? : Rest → Option Rest
  | [] => some []
  | c :: rest =>
    if c == 'T' || c == 't' || c == ' ' then
      match time? rest with
      | some rest => offset? rest
      | none => some (c :: rest)
    else some (c :: rest)

/-- A date with or without a time, or a time alone. -/
def read? (text : Rest) : Option Rest :=
  match date? text with
  | some rest => timeOfDate? rest
  | none => time? text

end GitGateway.Toml.DateTime
