import GitGateway.Http.Wire.Line
import GitGateway.Text.Hex

/-!
# Bodies on the wire

The headers of a message tell where its body ends: after a last chunk, after a
number of octets, or where the connection ends.

- `Wire.Framing` — the three ways, and `Wire.framing?` — the one that headers ask for;
- `Framing.read` — the body at the front of a run of octets. A body that breaks off
  is kept as far as it goes;
- `Wire.chunkOctets` — a body in chunks, as it is sent.
-/

namespace GitGateway.Http.Wire

/-- Where a body ends. -/
inductive Framing where
  | chunked
  | counted (length : Nat)
  | toEnd
  deriving DecidableEq, Repr

/-! ## Chunks -/

/-- What follows a line end, which between chunks needs its carriage return. -/
def afterLineEnd? : Bytes → Option Bytes
  | 0x0D :: 0x0A :: rest => some rest
  | _ => none

/-- The size of a chunk and what follows its line. Blanks may stand behind the digits,
and an extension behind a semicolon, which does not count. -/
def chunkSize? (input : Bytes) : Option (Nat × Bytes) := do
  let isDigit (b : UInt8) := (Hex.value? b).isSome
  let digits := input.takeWhile isDigit
  let size := digits.foldl (fun value b => value * 16 + (Hex.value? b).getD 0) 0
  if digits.isEmpty || 0xFFFFFFFFFFFFFFFF < size then none
  match (input.dropWhile isDigit).dropWhile fun b => b == 0x20 || b == 0x09 with
  | 0x3B :: rest => return (size, ← afterLineEnd? (rest.dropWhile fun b => b != 0x0D && b != 0x0A))
  | rest => return (size, ← afterLineEnd? rest)

/-- Whether the trailer after the last chunk ends, at most `fuel` lines on. Its lines
are headers. -/
def trailerEnds : Nat → Bytes → Bool
  | 0, _ => false
  | fuel + 1, input =>
    match afterLineEnd? input with
    | some _ => true
    | none =>
      match afterLineEnd? (input.dropWhile (· != 0x0D)) with
      | some rest => (header? (input.takeWhile (· != 0x0D))).isSome && trailerEnds fuel rest
      | none => false

/-- The octets of a chunked body, after those in `seen`, which are kept last chunk
first, and whether the body ends as it should. -/
def chunksAfter : Nat → List Bytes → Bytes → Bytes × Bool
  | 0, seen, _ => (seen.reverse.flatten, false)
  | fuel + 1, seen, input =>
    match chunkSize? input with
    | none => (seen.reverse.flatten, false)
    | some (0, rest) => (seen.reverse.flatten, trailerEnds (rest.length + 1) rest)
    | some (size, rest) =>
      let (chunk, after) := rest.splitAt size
      match afterLineEnd? after with
      | some after => chunksAfter fuel (chunk :: seen) after
      | none => ((chunk :: seen).reverse.flatten, false)

/-- A body in chunks. One that is not complete lacks the last chunk, so that whoever
reads it can tell. -/
def chunkOctets (body : Body) : Bytes :=
  (if body.octets.isEmpty then []
    else Utf8.encode (String.ofList (Hex.numeral body.octets.length)) ++ lineEnd ++
      body.octets ++ lineEnd) ++
  if body.complete then Utf8.encode "0" ++ lineEnd ++ lineEnd else []

/-! ## Framing -/

/-- The longest body that can be counted. -/
def maxLength : Nat := 0xFFFFFFFFFFFFFFFD

/-- A length in decimal digits. -/
def length? (word : String) : Option Nat :=
  (decimal? (Utf8.encode word)).filter (· ≤ maxLength)

/-- The length that the headers give: none if they give none, and no answer at all
if they give several or something else. -/
def contentLength? (headers : Headers) : Option (Option Nat) := do
  let words ← (headers.values "content-length").mapM words?
  match ← words.flatten.mapM length? with
  | [] => return none
  | length :: others => if others.all (· == length) then some (some length) else none

/-- Whether the last of the codings that headers ask for cuts a body into chunks. -/
def isChunked (headers : Headers) : Bool :=
  match (headers.values "transfer-encoding").getLast?.bind words? with
  | some words => words.getLast? == some "chunked"
  | none => false

/-- The framing that headers ask for. A message of version 1.0 cannot ask for a
coding. -/
def framing? (old : Bool) (headers : Headers) : Option Framing :=
  if (headers.first? "transfer-encoding").isSome then
    if old then none
    else if isChunked headers then some .chunked
    else some .toEnd
  else (contentLength? headers).map fun length => length.elim .toEnd .counted

/-- The body at the front of a run of octets. -/
def Framing.read (input : Bytes) : Framing → Body
  | .chunked =>
    let (octets, complete) := chunksAfter (input.length + 1) [] input
    { octets, complete, sized := false }
  | .counted length =>
    let octets := input.take length
    { octets, complete := octets.length == length }
  | .toEnd => { octets := input, sized := false }

end GitGateway.Http.Wire
