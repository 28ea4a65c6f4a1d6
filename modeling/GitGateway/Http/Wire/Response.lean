import GitGateway.Http.Wire.Body

/-!
# Responses on the wire

How the octets of a connection read as a response to one request, and how a response
is sent.

- `Wire.responseHead?` — a status line and headers, up to the empty line;
- `Wire.responseBody?` — the body that belongs to a head: none where there can be none,
  else what the headers say;
- `Wire.response?` — the first response that is not merely informational;
- `Wire.responseOctets` — a response as it is sent.

A head that cannot be read makes the whole unreadable.
-/

namespace GitGateway.Http.Wire

/-- A status line, a response's headers, and what follows them. -/
structure ResponseHead where
  /-- Version 1.0 rather than 1.1. -/
  old : Bool
  status : Nat
  headers : Headers
  rest : Bytes
  deriving DecidableEq, Repr

/-- A status line. -/
def statusLine? (content : Bytes) : Option (Bool × Nat) := do
  let old ← match lowerText (content.take 9) with
    | "http/1.1 " => some false
    | "http/1.0 " => some true
    | _ => none
  if content.take 4 != [0x48, 0x54, 0x54, 0x50] then none
  let code := (content.drop 9).take 3
  let status ← decimal? code
  let reason := content.drop 12
  if code.length != 3 || status < 100 then none
  if !reason.isEmpty && reason.head? != some 0x20 then none
  if !Headers.isValue reason then none
  return (old, status)

/-- The head at the front of a run of octets. Empty lines before it are skipped. -/
def responseHead? (input : Bytes) : Option ResponseHead := do
  let (content, rest) ← line? (skipBlankLines input)
  let (old, status) ← statusLine? content
  let (headers, rest) ← headersAfter maxHeaders [] rest
  return ⟨old, status, headers, rest⟩

/-- Whether a response to a method has no body, whatever its headers say: a change of
protocols, a status without content, an answer to `HEAD`, and a tunnel. -/
def isBodiless (method : String) (status : Nat) : Bool :=
  [101, 204, 304].contains status || method == "HEAD" ||
    (method == "CONNECT" && isSuccess status)

/-- The body that belongs to a head. -/
def responseBody? (method : String) (head : ResponseHead) : Option Body :=
  if isBodiless method head.status then some { octets := [] }
  else (framing? head.old head.headers).map (Framing.read head.rest)

/-- Whether a response only tells that the real one is on its way. -/
def isInformational (status : Nat) : Bool :=
  100 ≤ status && status ≤ 199 && status != 101

/-- The response at the front of a run of octets, past at most `fuel` informational
ones. -/
def responseAfter (method : String) : Nat → Bytes → Option Response
  | 0, _ => none
  | fuel + 1, input => do
    let head ← responseHead? input
    if isInformational head.status then
      responseAfter method fuel head.rest
    else
      return ⟨head.status, head.headers, ← responseBody? method head⟩

/-- The response to a request of the given method. -/
def response? (method : String) (input : Bytes) : Option Response :=
  responseAfter method (input.length + 1) input

/-! ## Writing -/

/-- A response as it is sent on a connection that it ends. The reason phrase, which
means nothing, is left empty, and a body of unknown length goes in chunks. -/
def responseOctets (response : Response) : Bytes :=
  let kept := (response.headers.remove "connection").remove "transfer-encoding"
  let closing := kept ++ [("connection", Utf8.encode "close")]
  Utf8.encode ("HTTP/1.1 " ++ toString response.status ++ " \r\n") ++
    if response.body.sized then headerOctets closing ++ response.body.octets
    else
      headerOctets (closing.remove "content-length" ++
        [("transfer-encoding", Utf8.encode "chunked")]) ++ chunkOctets response.body

end GitGateway.Http.Wire
