import GitGateway.Http.Message

/-!
# Lines on the wire

A message starts with lines: one that says what it is, then its headers, then an
empty one. Each ends with a line feed, and a carriage return before it does not
count.

- `Wire.line?` — the first line and what follows it;
- `Wire.headersAfter` — header lines up to the empty one;
- `Wire.headEnds` — whether the empty line has come;
- `Wire.headerOctets` — headers as they are sent, with the empty line.
-/

namespace GitGateway.Http.Wire

/-- The first line and what follows it. Without a line feed there is no line. -/
def line? (input : Bytes) : Option (Bytes × Bytes) :=
  match input.dropWhile (· != 0x0A) with
  | [] => none
  | _ :: rest =>
    let content := input.takeWhile (· != 0x0A)
    some (if content.getLast? == some 0x0D then content.dropLast else content, rest)

/-- The input without empty lines at its front. -/
def skipBlankLines (input : Bytes) : Bytes :=
  input.dropWhile fun b => b == 0x0D || b == 0x0A

/-- Whether an octet may stand in a header name, or in a method. -/
def isNameOctet (b : UInt8) : Bool :=
  let c := Char.ofNat b.toNat
  c.isAlphanum || "!#$%&'*+-.^_|~".toList.contains c || b == 0x60

/-- The octets without blanks at either end. -/
def trim (value : Bytes) : Bytes :=
  let isBlank (b : UInt8) := b == 0x20 || b == 0x09
  ((value.dropWhile isBlank).reverse.dropWhile isBlank).reverse

/-- The text of ASCII octets. -/
def asciiText (octets : Bytes) : String :=
  String.ofList (octets.map fun b => Char.ofNat b.toNat)

/-- The text of ASCII octets, in lower case. -/
def lowerText (octets : Bytes) : String :=
  (asciiText octets).toLower

/-- The number that a run of ASCII digits spells. -/
def decimal? (digits : Bytes) : Option Nat :=
  if !digits.isEmpty && digits.all fun b => 0x30 ≤ b && b ≤ 0x39 then
    some (digits.foldl (fun value b => value * 10 + (b.toNat - 0x30)) 0)
  else none

/-! ## Headers -/

/-- A header line. -/
def header? (content : Bytes) : Option (String × Bytes) :=
  let name := content.takeWhile isNameOctet
  match content.dropWhile isNameOctet with
  | 0x3A :: value =>
    let value := trim value
    if name.isEmpty || !Headers.isValue value then none else some (lowerText name, value)
  | _ => none

/-- The most header lines of a head. -/
def maxHeaders : Nat := 100

/-- Header lines up to the empty one, at most `room` of them; `seen` has those
before, last first. -/
def headersAfter : Nat → Headers → Bytes → Option (Headers × Bytes)
  | room, seen, input => do
    let (content, rest) ← line? input
    if content.isEmpty then
      return (seen.reverse, rest)
    match room with
    | 0 => none
    | room + 1 => headersAfter room ((← header? content) :: seen) rest

/-- Whether there is an empty line after the first one. -/
def headEnds : Bytes → Bool
  | 0x0A :: 0x0A :: _ => true
  | 0x0A :: 0x0D :: 0x0A :: _ => true
  | _ :: rest => headEnds rest
  | [] => false

/-- The words of a list-valued header as one of its lines has them, in lower case; a
line that is not all visible ASCII has none. -/
def words? (value : Bytes) : Option (List String) :=
  if value.all fun b => b == 0x09 || (0x20 ≤ b && b < 0x7F) then
    some (((lowerText value).splitOn ",").map fun word => word.trimAscii.toString)
  else none

/-! ## Writing -/

/-- The end of a line. -/
def lineEnd : Bytes := [0x0D, 0x0A]

/-- Headers as they are sent, with the empty line behind them. -/
def headerOctets (headers : Headers) : Bytes :=
  (headers.flatMap fun (name, value) => Utf8.encode (name ++ ": ") ++ value ++ lineEnd) ++ lineEnd

end GitGateway.Http.Wire
