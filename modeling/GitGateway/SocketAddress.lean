import GitGateway.Text.Hex

/-!
# Socket addresses

An IP address and a port, in the form `a.b.c.d:port`, `[v6]:port` or
`[v6%scope]:port`. Nothing may stand around it.

- `SocketAddress.decimal?`, `SocketAddress.v4?`, `SocketAddress.v6?` — the parts,
  each read off the front of a text;
- `SocketAddress.ofString?` — the address that a text spells.

A version-6 address has eight groups of up to four hexadecimal digits. Its last
two groups may be written as a version-4 address, and one `::` stands for one or
more groups of zero.
-/

namespace GitGateway

/-- An IP address. -/
inductive IpAddress where
  | v4 (a b c d : Nat)
  | v6 (groups : List Nat)
  deriving DecidableEq, Repr

/-- An address that can be bound or connected to. -/
structure SocketAddress where
  ip : IpAddress
  scope : Nat
  port : Nat
  deriving DecidableEq, Repr

namespace SocketAddress

/-- The value of a decimal digit. -/
def decimalValue? (c : Char) : Option Nat :=
  if c.isDigit then some (c.toNat - '0'.toNat) else none

/-- The value of a hexadecimal digit of either case. -/
def hexValue? (c : Char) : Option Nat :=
  if c.toNat < 128 then Hex.value? (UInt8.ofNat c.toNat) else none

/-- The values of the digits at the front of a text, and what follows them. -/
def digits (value? : Char → Option Nat) (text : List Char) : List Nat × List Char :=
  let isDigit c := (value? c).isSome
  ((text.takeWhile isDigit).filterMap value?, text.dropWhile isDigit)

/-- A decimal number of at most `limit`. Leading zeros are allowed. -/
def decimal? (limit : Nat) (text : List Char) : Option (Nat × List Char) :=
  let (found, rest) := digits decimalValue? text
  let value := found.foldl (fun value digit => value * 10 + digit) 0
  if found.isEmpty || limit < value then none else some (value, rest)

/-- An octet of a version-4 address: up to three digits, without leading zeros. -/
def octet? (text : List Char) : Option (Nat × List Char) :=
  let (found, rest) := digits decimalValue? text
  if 3 < found.length || (1 < found.length && found.head? == some 0) then none
  else
    let value := found.foldl (fun value digit => value * 10 + digit) 0
    if found.isEmpty || 255 < value then none else some (value, rest)

/-- A group of a version-6 address: up to four hexadecimal digits. -/
def group? (text : List Char) : Option (Nat × List Char) :=
  let (found, rest) := digits hexValue? text
  if found.isEmpty || 4 < found.length then none
  else some (found.foldl (fun value digit => value * 16 + digit) 0, rest)

/-- A given character. -/
def char? (c : Char) : List Char → Option (List Char)
  | d :: rest => if d == c then some rest else none
  | [] => none

/-- Four octets with points between them. -/
def v4? (text : List Char) : Option ((Nat × Nat × Nat × Nat) × List Char) := do
  let (a, rest) ← octet? text
  let (b, rest) ← octet? (← char? '.' rest)
  let (c, rest) ← octet? (← char? '.' rest)
  let (d, rest) ← octet? (← char? '.' rest)
  return ((a, b, c, d), rest)

/-- What stands before a group: a colon, but nothing before the first one. -/
def separator? (first : Bool) (text : List Char) : Option (List Char) :=
  if first then some text else char? ':' text

/-- At most `slots` groups with colons between them. Where two slots are left, a
version-4 address may fill both, which ends the groups; the flag says that it did. -/
def groups : Nat → Bool → List Char → List Nat × Bool × List Char
  | 0, _, text => ([], false, text)
  | slots + 1, first, text =>
    let embedded := if slots = 0 then none else (separator? first text).bind v4?
    match embedded with
    | some ((a, b, c, d), rest) => ([a * 256 + b, c * 256 + d], true, rest)
    | none =>
      match (separator? first text).bind group? with
      | none => ([], false, text)
      | some (group, rest) =>
        let (more, embedded, rest) := groups slots false rest
        (group :: more, embedded, rest)

/-- Eight groups, of which some may be left out at a `::`. A version-4 address may
only stand at the very end. -/
def v6? (text : List Char) : Option (List Nat × List Char) := do
  let (head, embedded, rest) := groups 8 true text
  if head.length = 8 then
    return (head, rest)
  if embedded then
    none
  let rest ← char? ':' (← char? ':' rest)
  let (tail, _, rest) := groups (7 - head.length) true rest
  return (head ++ List.replicate (8 - head.length - tail.length) 0 ++ tail, rest)

/-- A colon and a port. -/
def port? (text : List Char) : Option (Nat × List Char) := do
  decimal? 65535 (← char? ':' text)

/-- A percent sign and a scope, zero if they are not there. -/
def optionalScope (text : List Char) : Nat × List Char :=
  ((char? '%' text).bind (decimal? 0xFFFFFFFF)).getD (0, text)

/-- A version-4 socket address. -/
def socketV4? (text : List Char) : Option (SocketAddress × List Char) := do
  let ((a, b, c, d), rest) ← v4? text
  let (port, rest) ← port? rest
  return (⟨.v4 a b c d, 0, port⟩, rest)

/-- A version-6 socket address. -/
def socketV6? (text : List Char) : Option (SocketAddress × List Char) := do
  let (groups, rest) ← v6? (← char? '[' text)
  let (scope, rest) := optionalScope rest
  let (port, rest) ← port? (← char? ']' rest)
  return (⟨.v6 groups, scope, port⟩, rest)

/-- The address that a text spells. -/
def ofString? (text : String) : Option SocketAddress :=
  match (socketV4? text.toList).or (socketV6? text.toList) with
  | some (address, []) => some address
  | _ => none

/-! ## Writing -/

/-- The first longest run of zeros in a list: where it starts, and its length. The
list is what follows `place` groups, and `best` is the longest run before them. -/
def longestZeros (place : Nat) (best : Nat × Nat) : List Nat → Nat × Nat
  | [] => best
  | groups@(_ :: rest) =>
    let run := (groups.takeWhile (· == 0)).length
    longestZeros (place + 1) (if best.2 < run then (place, run) else best) rest

/-- Groups in hexadecimal with colons between them. -/
def groupsText (groups : List Nat) : String :=
  ":".intercalate (groups.map fun group => String.ofList (Hex.numeral group))

/-- Four octets with points between them. -/
def octetsText (octets : List Nat) : String :=
  ".".intercalate (octets.map toString)

/-- An IP address in its usual form. Of a version-6 address the first longest run of
two or more zeros is left out, and one that stands for a version-4 address ends in
it. -/
def ipText : IpAddress → String
  | .v4 a b c d => octetsText [a, b, c, d]
  | .v6 [0, 0, 0, 0, 0, 0xFFFF, high, low] =>
    "::ffff:" ++ octetsText [high / 256, high % 256, low / 256, low % 256]
  | .v6 groups =>
    let (start, run) := longestZeros 0 (0, 0) groups
    if run < 2 then groupsText groups
    else groupsText (groups.take start) ++ "::" ++ groupsText (groups.drop (start + run))

/-- An address with the port in the given words. -/
def textWithPort (address : SocketAddress) (port : String) : String :=
  match address.ip with
  | .v4 .. => ipText address.ip ++ ":" ++ port
  | .v6 _ =>
    let scope := if address.scope = 0 then "" else "%" ++ toString address.scope
    "[" ++ ipText address.ip ++ scope ++ "]:" ++ port

/-- An address in its usual form. -/
def text (address : SocketAddress) : String :=
  address.textWithPort (toString address.port)

/-- Whether an address is on this very machine: a loopback address, or the one that
stands for all of its own. -/
def isLocal (address : SocketAddress) : Bool :=
  match address.ip with
  | .v4 a b c d => a == 127 || [a, b, c, d] == [0, 0, 0, 0]
  | .v6 groups => groups.take 7 == List.replicate 7 0 && (groups.drop 7).all (· ≤ 1)

end SocketAddress

end GitGateway
