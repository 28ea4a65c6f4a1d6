import GitGateway.Backend.Error
import GitGateway.Http.Message
import GitGateway.Status.Reading

/-!
# Calling the backend

A client sends every request to one authority and turns what comes back into a
response or an error.

- `Client.ofAddress` — a client for a configured address;
- `Client.forward` — a request as the backend gets to see it: the same path and
  query, method, body and headers, but with the backend as host;
- `Client.result` — what a caller is told of the backend's reply. A success is
  handed on as it is; of any other response the body is read, up to a bound, and
  becomes a status.
-/

namespace GitGateway.Backend

open Http (Body Headers Request Response)

/-- What came of sending a request to the backend. -/
inductive Reply where
  /-- There was no connection. -/
  | refused
  /-- The connection ended without a response that can be read. -/
  | unreadable
  | response (response : Response)
  deriving DecidableEq, Repr

/-- A request as the backend gets to see it. -/
structure Forwarded where
  method : String
  /-- The target in the request line. -/
  target : String
  headers : Headers
  body : Bytes
  deriving DecidableEq, Repr

/-- A client for one backend. -/
structure Client where
  authority : String
  deriving DecidableEq, Repr

/-- The longest body of a failed answer that is read. -/
def maxErrorBody : Nat := 65536

namespace Client

/-- A client for a configured address. -/
def ofAddress (address : String) : Except Error Client :=
  match Http.Authority.check address with
  | .ok () => .ok ⟨address⟩
  | .error reason => .error (.invalidAddress address reason)

/-- A request as the backend gets to see it. -/
def forward (client : Client) (request : Request) : Except Error Forwarded :=
  match request.target.addressed? client.authority with
  | none => .error (.request (.plain "invalid uri parts"))
  | some target =>
    .ok {
      method := request.method
      target := target.originForm
      headers := request.headers.remove "host" ++
        [("host", Utf8.encode (Http.Authority.hostHeader client.authority))]
      body := request.body }

/-- The status of a failed response, or why its body could not be read. -/
def failed (response : Response) : Error :=
  if maxErrorBody < response.body.octets.length then
    .body (.plain "length limit exceeded")
  else if !response.body.complete then
    .body (.plain "error reading a body from connection")
  else
    .status (Status.ofAnswer response.status response.body.octets)

/-- What a caller is told of a reply. -/
def result : Reply → Except Error Response
  | .refused => .error (.transport (.plain "client error (Connect)"))
  | .unreadable => .error (.transport (.plain "client error (SendRequest)"))
  | .response response =>
    if Http.isSuccess response.status then .ok response else .error (failed response)

/-- Sends a request, to which `reply` comes back. -/
def call (client : Client) (request : Request) (reply : Reply) : Except Error Response :=
  match client.forward request with
  | .error e => .error e
  | .ok _ => result reply

end Client

end GitGateway.Backend
