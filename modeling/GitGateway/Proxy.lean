import GitGateway.Backend.Client
import GitGateway.Overload

/-!
# The proxy

Every request goes to the backend under a correlation ID, and every failure of the
backend becomes an answer that says no more than the client needs.

- `Proxy.withId` — a request with its correlation ID;
- `Proxy.refusal` — the answer to a failed call: a busy notice for a Git operation,
  503 for any other request to an overloaded backend, and 502 for all else;
- `Proxy.handle` — a request from the routes to the answer, given the reply of the
  backend;
- `Proxy.serve` — the same with the request timeout.

An answer comes with what was logged and counted on the way.
-/

namespace GitGateway.Proxy

open Backend (Client Forwarded Reply)
open Http (Body Headers Request Response)

/-- The header that carries the correlation ID, in both directions. -/
def idHeader : String := "x-request-id"

/-- An answer with its traces. -/
structure Answer where
  response : Response
  records : List Log.Record := []
  counters : List Counter := []
  /-- What the backend got to see. -/
  forwarded : Option Forwarded := none

/-! ## Responses of the proxy's own -/

/-- A response with a line of text. -/
def textResponse (status : Nat) (text : String) : Response where
  status := status
  headers := [("content-type", Utf8.encode "text/plain; charset=utf-8")]
  body := { octets := Utf8.encode text }

/-- A response with nothing in it. -/
def emptyResponse (status : Nat) : Response where
  status := status
  headers := []
  body := { octets := [] }

/-- The response that carries a busy notice. -/
def busyResponse (operation : Operation) (notice : Bytes) : Response where
  status := 200
  headers := [("content-type", Utf8.encode operation.resultType),
    ("cache-control", Utf8.encode "no-cache")]
  body := { octets := notice }

/-- An event about the request with the given ID. -/
def event (level : Log.Level) (message id : String) (fields : List (String × String)) :
    Log.Record :=
  ⟨.event, level, message, ("correlation_id", id) :: fields⟩

/-- The label under which a failed call is counted. -/
def errorLabel (error : Backend.Error) : String :=
  match error.status? with
  | some status => status.code.name
  | none => "TRANSPORT"

/-- The answer to a call that failed for no lack of capacity. -/
def badGateway (error : Backend.Error) (id : String) (sofar : List Log.Record)
    (counters : List Counter) : Answer where
  response := textResponse 502 "Backend request failed"
  records := sofar ++ [event .error "Backend request failed" id [("error", error.text)]]
  counters := counters

/-- The answer to a failed call. -/
def refusal (error : Backend.Error) (operation : Option Operation) (id : String) : Answer :=
  let counted := [Counter.backendError (errorLabel error)]
  match operation with
  | some operation =>
    let outcome :=
      Overload.respond Sink.memory (Session.start ()) error.status? operation id
    let reported := outcome.reports.map Overload.Report.record
    if outcome.detected then
      { response := busyResponse operation outcome.session.written
        records := reported ++
          [event .warn "Backend overloaded, sending busy response" id
            [("operation", operation.service), ("error", error.text)]]
        counters := counted ++ outcome.counters }
    else
      badGateway error id reported (counted ++ outcome.counters)
  | none =>
    if error.status?.any Status.isOverloaded then
      { response := textResponse 503 "Backend is overloaded, try again later"
        records := [event .warn "Backend overloaded" id [("error", error.text)]]
        counters := counted }
    else
      badGateway error id [] counted

/-! ## Around the handler -/

/-- A request with its correlation ID: the first one it came with, else the fresh
one, which it then carries. -/
def withId (request : Request) (fresh : Bytes) : Request × Bytes :=
  match request.headers.first? idHeader with
  | some id => (request, id)
  | none => ({ request with headers := request.headers ++ [(idHeader, fresh)] }, fresh)

/-- Whether the router has a route for a request. -/
def isRouted (request : Request) : Bool :=
  request.target.path.startsWith "/"

/-- What every response goes through on its way out: it gets the correlation ID
unless it has one, and its length if that is known; an answer to `HEAD` loses its
body. -/
def finish (request : Request) (id : Bytes) (response : Response) : Response :=
  let headers := response.headers.addIfMissing idHeader id
  let headers := if response.body.sized then
      headers.addIfMissing "content-length" (Utf8.encode (toString response.body.octets.length))
    else headers
  { response with
    headers := headers
    body := if request.method = "HEAD" then { octets := [] } else response.body }

/-- The span around a request. -/
def span (request : Request) (id : String) : Log.Record :=
  ⟨.span, .info, "request", [("method", request.method), ("uri", request.target.text),
    ("correlation_id", id)]⟩

/-- The event at the start of every call. -/
def forwarding (request : Request) (id : String) : Log.Record :=
  event .debug "Forwarding request" id
    [("method", request.method), ("path", request.target.path)]

/-- What a call looks like from outside, before the response is finished. -/
def handleRouted (client : Client) (request : Request) (id : String) (reply : Reply) : Answer :=
  let answer : Answer := match client.call request reply with
    | .ok response => { response := response }
    | .error error => refusal error (Operation.ofPath? request.target.path) id
  let seen := match reply with
    | .refused => none
    | _ => (client.forward request).toOption
  { answer with
    records := forwarding request id :: answer.records
    forwarded := seen }

/-- What happens to a request, given its ID and how it is answered where it has a
route. -/
def around (request : Request) (fresh : Bytes) (inner : Request → String → Answer) : Answer :=
  let (request, id) := withId request fresh
  let shown := CorrelationId.ofOctets id
  let answer : Answer := if isRouted request then inner request shown
    else { response := emptyResponse 404 }
  { answer with
    response := finish request id answer.response
    records := span request shown :: answer.records }

/-- The answer to a request, given the reply of the backend. -/
def handle (client : Client) (request : Request) (fresh : Bytes) (reply : Reply) : Answer :=
  around request fresh fun request id => handleRouted client request id reply

/-! ## The request timeout -/

/-- What a request meets on the network. -/
inductive Exchange where
  | reply (reply : Reply)
  /-- The backend never answers. -/
  | silence
  deriving DecidableEq, Repr

/-- Whether an exchange outlasts the request timeout. A connection that is refused
is known of at once; any response takes longer than no time; silence outlasts
everything. -/
def outlasts (requestSecs : Nat) : Exchange → Bool
  | .reply .refused => false
  | .reply _ => requestSecs == 0
  | .silence => true

/-- The answer when the timeout fires first. -/
def timedOut (request : Request) (fresh : Bytes) : Answer :=
  around request fresh fun request id =>
    { response := emptyResponse 408, records := [forwarding request id] }

/-- The answer to a request under a request timeout. -/
def serve (client : Client) (requestSecs : Nat) (request : Request) (fresh : Bytes)
    (exchange : Exchange) : Answer :=
  match exchange with
  | .reply reply =>
    if outlasts requestSecs exchange then timedOut request fresh
    else handle client request fresh reply
  | .silence => timedOut request fresh

end GitGateway.Proxy
