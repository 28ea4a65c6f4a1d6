import GitGateway.Http.Wire.Body

/-!
# Requests on the wire

How the octets of a connection read as a request, and how a request is sent.

- `Wire.requestHead?` — a request line and headers, up to the empty line;
- `Wire.incoming` — what has come of a request so far;
- `Wire.requestOctets` — a request as it is sent.
-/

namespace GitGateway.Http.Wire

/-- A request line, a request's headers, and what follows them. -/
structure RequestHead where
  /-- Version 1.0 rather than 1.1. -/
  old : Bool
  method : String
  target : Target
  headers : Headers
  rest : Bytes
  deriving DecidableEq, Repr

/-- The octets before the first space, and those after it. -/
def word? (content : Bytes) : Option (Bytes × Bytes) :=
  match content.dropWhile (· != 0x20) with
  | [] => none
  | _ :: rest => some (content.takeWhile (· != 0x20), rest)

/-- A request line: a method, a target and a version. -/
def requestLine? (content : Bytes) : Option (Bool × String × Target) := do
  let (method, rest) ← word? content
  let (target, version) ← word? rest
  if method.isEmpty || !method.all isNameOctet then none
  let target ← (Utf8.decode? target).bind Target.ofString?
  match asciiText version with
  | "HTTP/1.1" => return (false, asciiText method, target)
  | "HTTP/1.0" => return (true, asciiText method, target)
  | _ => none

/-- The head at the front of a run of octets. Empty lines before it are skipped. -/
def requestHead? (input : Bytes) : Option RequestHead := do
  let (content, rest) ← line? (skipBlankLines input)
  let (old, method, target) ← requestLine? content
  let (headers, rest) ← headersAfter maxHeaders [] rest
  return ⟨old, method, target, headers, rest⟩

/-- The body that belongs to a head, as far as it has come. Without framing there is
none. -/
def requestBody? (head : RequestHead) : Option Body :=
  match framing? head.old head.headers with
  | none => none
  | some .toEnd =>
    if (head.headers.first? "transfer-encoding").isSome then none else some { octets := [] }
  | some framing => some (framing.read head.rest)

/-- How many octets of an incomplete body are still to come, at the least. -/
def missingOctets (head : RequestHead) (body : Body) : Nat :=
  match framing? head.old head.headers with
  | some (.counted length) => length - body.octets.length
  | _ => 1

/-- What has come of a request. -/
inductive Incoming where
  /-- Not all of it: at least so many octets are still to come, and the flag says that
  the client waits to be told to go on. -/
  | incomplete (missing : Nat) (waits : Bool)
  | malformed
  | complete (request : Request)
  deriving DecidableEq, Repr

/-- What a run of octets is of a request. -/
def incoming (input : Bytes) : Incoming :=
  if !headEnds (skipBlankLines input) then .incomplete 1 false
  else
    match requestHead? input with
    | none => .malformed
    | some head =>
      match requestBody? head with
      | none => .malformed
      | some body =>
        if body.complete then
          .complete ⟨head.method, head.target, head.headers, body.octets⟩
        else
          .incomplete (missingOctets head body)
            ((head.headers.first? "expect").map lowerText == some "100-continue")

/-! ## Writing -/

/-- The go-ahead for a client that waits for it. -/
def continueOctets : Bytes :=
  Utf8.encode "HTTP/1.1 100 Continue\r\n\r\n"

/-- A request as it is sent on a connection that it ends. A length is given if there is
a body, or if the headers give one. -/
def requestOctets (method target : String) (headers : Headers) (body : Bytes) : Bytes :=
  let kept := ["connection", "content-length", "expect", "transfer-encoding"].foldl
    Headers.remove headers
  let length := if body.isEmpty && (headers.first? "content-length").isNone then []
    else [("content-length", Utf8.encode (toString body.length))]
  Utf8.encode (method ++ " " ++ target ++ " HTTP/1.1\r\n") ++
    headerOctets (kept ++ length ++ [("connection", Utf8.encode "close")]) ++ body

end GitGateway.Http.Wire
