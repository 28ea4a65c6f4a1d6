import GitGateway.CommandLine.Startup
import GitGateway.Http.Wire.Request
import GitGateway.Http.Wire.Response
import GitGateway.Proxy
import Std.Async.DNS
import Std.Async.Signal
import Std.Async.TCP
import Std.Async.Timer

/-!
# The program

Finds out what a run depends on, prints the report of the run, and serves if that is
what it comes to. What is answered, logged and counted is settled by `Proxy` and
`CommandLine`; here are only files, sockets, clocks and signals.

- `Program.siteOf` — what a run finds around it;
- `Program.exchange` — one request to the backend and what comes of it;
- `Program.answer` — one connection from a client;
- `Program.accept` — one connection after another;
- `Program.serve` — all of them until a signal comes, and then until all are done;
- `Program.run` — the whole of a run.

A connection carries one request and is closed behind the answer.
-/

namespace GitGateway.Program

open Std.Async (Async AsyncTask Signal Sleep async await background)
open Std.Async.TCP (Socket.Client Socket.Server)

/-! ## Files and faults -/

/-- The code and the wording of an error. -/
def codeAndWording : IO.Error → UInt32 × String
  | .alreadyExists _ code details | .invalidArgument _ code details
  | .permissionDenied _ code details | .resourceExhausted _ code details
  | .inappropriateType _ code details | .noSuchThing _ code details
  | .interrupted _ code details | .noFileOrDirectory _ code details
  | .otherError code details | .resourceBusy code details | .resourceVanished code details
  | .unsupportedOperation code details | .hardwareFault code details
  | .unsatisfiedConstraints code details | .illegalOperation code details
  | .protocolError code details | .timeExpired code details => (code, details)
  | .unexpectedEof => (0, "unexpected end of file")
  | .userError message => (0, message)

/-- The fault behind an error. Sockets give their codes with a minus sign. -/
def faultOf (error : IO.Error) : SystemFault :=
  let (code, wording) := codeAndWording error
  SystemFault.ofCode (if code < 0x80000000 then code else 0 - code).toNat wording

/-- The result of an action, or the fault that it met. -/
def attempt {α : Type} (action : IO α) : IO (Except SystemFault α) := do
  try
    return .ok (← action)
  catch error =>
    return .error (faultOf error)

/-- The content of a file. -/
def readFile (path : String) : IO (Except SystemFault Bytes) :=
  attempt do return (← IO.FS.readBinFile path).toList

/-! ## Sockets -/

/-- An address as sockets take it. -/
def nativeAddress (address : SocketAddress) : Std.Net.SocketAddress :=
  let port := address.port.toUInt16
  match address.ip with
  | .v4 a b c d => .v4 ⟨.ofParts a.toUInt8 b.toUInt8 c.toUInt8 d.toUInt8, port⟩
  | .v6 groups =>
    let group (i : Nat) : UInt16 := (groups.getD i 0).toUInt16
    .v6 ⟨.ofParts (group 0) (group 1) (group 2) (group 3) (group 4) (group 5) (group 6) (group 7),
      port⟩

/-- The most connections that wait to be accepted. -/
def backlog : UInt32 := 1024

/-- A socket that listens, and its address with the port that was chosen. -/
structure Listener where
  socket : Socket.Server
  bound : SocketAddress

/-- Listens on an address. -/
def listen (address : SocketAddress) : IO (Except SystemFault Listener) :=
  attempt do
    let socket ← Socket.Server.mk
    socket.bind (nativeAddress address)
    socket.listen backlog
    let name ← socket.getSockName
    return ⟨socket, { address with port := name.port.toNat }⟩

/-- Octets as sockets take them. -/
def packed (octets : Bytes) : ByteArray :=
  ⟨octets.toArray⟩

/-- The most octets that are received at once. -/
def gulp : UInt64 := 65536

/-- Receives until at least `missing` more octets are there; the flag says whether the
connection goes on. -/
partial def receiveSome (socket : Socket.Client) (seen : ByteArray) (missing : Nat) :
    Async (ByteArray × Bool) := do
  match ← socket.recv? gulp with
  | none => return (seen, false)
  | some more =>
    if missing ≤ more.size then return (seen ++ more, true)
    else receiveSome socket (seen ++ more) (missing - more.size)

/-- Receives until the connection ends. -/
partial def receiveAll (socket : Socket.Client) (seen : ByteArray) : Async ByteArray := do
  match ← (try socket.recv? gulp catch _ => return none) with
  | none => return seen
  | some more => receiveAll socket (seen ++ more)

/-- Receives a request; `told` says that the client has been told to go on. -/
partial def receiveRequest (socket : Socket.Client) (seen : ByteArray) (told : Bool) :
    Async Http.Wire.Incoming := do
  match Http.Wire.incoming seen.toList with
  | .incomplete missing waits =>
    if waits && !told then
      socket.send (packed Http.Wire.continueOctets)
    let (seen, goesOn) ← receiveSome socket seen missing
    if goesOn then receiveRequest socket seen (told || waits)
    else return .incomplete missing waits
  | outcome => return outcome

/-- A result, or `late` if it takes longer than a number of seconds. -/
def within {α : Type} [Inhabited α] (seconds : Nat) (late : α) (action : Async α) : Async α := do
  let sleep ← Sleep.mk (.ofNat (min seconds 1000000000 * 1000))
  let result ← Async.race action do
    sleep.wait
    return late
  sleep.stop
  return result

/-! ## The backend -/

/-- The port of a backend whose address names none. -/
def usualPort : Nat := 80

/-- A socket address with the given parts. -/
def withPort (port : UInt16) : Std.Net.IPAddr → Std.Net.SocketAddress
  | .v4 address => .v4 ⟨address, port⟩
  | .v6 address => .v6 ⟨address, port⟩

/-- Connects to the first address of an authority that takes the connection. -/
def connect (authority : String) : Async (Option Socket.Client) := do
  let port := (Http.Authority.port? authority).getD usualPort
  let host := String.ofList ((Http.Authority.host authority).toList.filter fun c =>
    c != '[' && c != ']')
  try
    for address in ← Std.Async.DNS.getAddrInfo host (toString port) do
      try
        let socket ← Socket.Client.mk
        socket.connect (withPort port.toUInt16 address)
        return some socket
      catch _ => pure ()
    return none
  catch _ => return none

instance : Inhabited Proxy.Exchange := ⟨.silence⟩

/-- What comes back for a request that is sent over a connection. -/
def converse (socket : Socket.Client) (request : Backend.Forwarded) : Async Backend.Reply := do
  try
    socket.send (packed
      (Http.Wire.requestOctets request.method request.target request.headers request.body))
    let octets ← receiveAll socket .empty
    match Http.Wire.response? request.method octets.toList with
    | some response => return .response response
    | none => return .unreadable
  catch _ => return .unreadable

/-- What a request meets on the network. -/
def exchange (settings : Settings) (client : Backend.Client) (request : Http.Request) :
    Async Proxy.Exchange :=
  within settings.timeouts.requestSecs .silence do
    match client.forward request with
    | .error _ => return .reply .unreadable
    | .ok forwarded =>
      match ← within settings.timeouts.connectSecs none (connect client.authority) with
      | none => return .reply .refused
      | some socket => return .reply (← converse socket forwarded)

/-! ## Printing -/

/-- The time now, as log lines have it. -/
def timestamp : IO String := do
  let now := Std.Time.DateTime.ofTimestampWithZone (← Std.Time.Timestamp.now) .UTC
  return now.format "uuuu-MM-dd'T'HH:mm:ss.SSSSSS'Z'"

/-- Prints lines. -/
def printLines (lines : List String) : IO Unit := do
  let output ← IO.getStdout
  for line in lines do
    output.putStrLn line
  output.flush

/-- Prints lines with the time before each. -/
def printLog (lines : List String) : IO Unit := do
  let time ← timestamp
  printLines (lines.map fun line => time ++ " " ++ line)

/-! ## Clients -/

/-- What all connections share. -/
structure Service where
  settings : Settings
  client : Backend.Client
  filter : Log.Filter
  totals : IO.Ref (List (Counter × Nat))

/-- A fresh correlation ID. -/
def freshId : IO Bytes := do
  let random ← IO.getRandomBytes 16
  let entropy := random.toList.foldl (fun sofar octet => sofar * 256 + octet.toNat) 0
  return Utf8.encode (CorrelationId.fresh entropy)

/-- Logs the records of a request inside the span that is among them. -/
def logRecords (service : Service) (records : List Log.Record) : IO Unit :=
  let span := records.find? fun record => record.kind == .span
  let events := records.filter fun record => record.kind == .event
  printLog (service.filter.lines (events.map fun record =>
    ⟨CommandLine.serverPart, record, span⟩))

/-- The response to a request. -/
def respond (service : Service) (request : Http.Request) : Async Http.Response := do
  let fresh ← freshId
  let numbered := (Proxy.withId request fresh).1
  let met ← if Proxy.isRouted numbered then exchange service.settings service.client numbered
    else pure .silence
  let answer := Proxy.serve service.client service.settings.timeouts.requestSecs request fresh met
  logRecords service answer.records
  service.totals.modify fun totals => Counter.addAll totals answer.counters
  return answer.response

/-- Answers a connection and closes it. -/
def answer (service : Service) (socket : Socket.Client) : Async Unit := do
  try
    match ← receiveRequest socket .empty false with
    | .incomplete .. => return
    | .malformed => socket.send (packed (Http.Wire.responseOctets (Proxy.emptyResponse 400)))
    | .complete request =>
      socket.send (packed (Http.Wire.responseOctets (← respond service request)))
    socket.shutdown
  catch _ => return

/-- Gives the metrics to everyone who asks. -/
partial def exportMetrics (service : Service) (socket : Socket.Server) : Async Unit := do
  let collector ← socket.accept
  try
    let _ ← receiveRequest collector .empty false
    let lines := Metrics.exposition (← service.totals.get)
    let text := String.join (lines.map fun line => line ++ "\n")
    collector.send (packed (Http.Wire.responseOctets (Proxy.textResponse 200 text)))
    collector.shutdown
  catch _ => pure ()
  exportMetrics service socket

/-- The connections of a service. -/
structure Traffic where
  /-- No more connections are answered. -/
  closed : IO.Ref Bool
  /-- The connections that may still be being answered. -/
  busy : IO.Ref (Array (AsyncTask Unit))

/-- Answers connections until no more are to be answered. -/
partial def accept (service : Service) (socket : Socket.Server) (traffic : Traffic) :
    Async Unit := do
  let client ← socket.accept
  unless ← traffic.closed.get do
    let task ← async (answer service client)
    let busy ← (← traffic.busy.get).filterM fun other => return !(← IO.hasFinished other)
    traffic.busy.set (busy.push task)
    accept service socket traffic

/-- Waits for one of the signals that end the program. -/
def awaitSignal : IO Unit := do
  let terminate ← (← Signal.Waiter.mk .sigterm false).wait
  let interrupt ← (← Signal.Waiter.mk .sigint false).wait
  let _ ← (Async.race (await terminate) (await interrupt)).block

/-! ## Running -/

/-- The sockets that the settings ask for: that of the exporter, and the listening
one. -/
structure Sockets where
  metrics : Except SystemFault Listener
  clients : Except SystemFault Listener

/-- Listens on an address that is given as text. -/
def listenAt (address : String) : IO (Except SystemFault Listener) :=
  match SocketAddress.ofString? address with
  | none => return .error SystemFault.notAvailable
  | some address => listen address

/-- Opens the sockets that the settings ask for. -/
def openSockets (settings : Settings) : IO Sockets := do
  let metrics ← if settings.observability.metricsEnabled then
      listenAt settings.observability.metricsAddress
    else pure (.error SystemFault.notAvailable)
  return ⟨metrics, ← listenAt settings.listener.bindAddress⟩

/-- What a run finds around it, given the content of its settings file. -/
def siteOf (environment : Option String) (content : Except SystemFault Bytes)
    (sockets : Sockets) : CommandLine.Site where
  file := fun _ => content
  environment := environment
  bindMetrics := fun _ => sockets.metrics.map fun _ => ()
  bindListener := fun _ => sockets.clients.map Listener.bound
  stops := false

/-- No sockets: what a run has that does not get so far as to open them. -/
def noSockets : Sockets := ⟨.error SystemFault.notAvailable, .error SystemFault.notAvailable⟩

/-- Serves with the given settings, metrics included, until a signal comes, and then
until every connection is done. -/
def serve (service : Service) (sockets : Sockets) : IO Unit := do
  let log (entries : List Log.Entry) : IO Unit := printLog (service.filter.lines entries)
  let traffic : Traffic := ⟨← IO.mkRef false, ← IO.mkRef #[]⟩
  if let .ok exporter := sockets.metrics then
    (background (exportMetrics service exporter.socket) : Async Unit).block
  if let .ok listener := sockets.clients then
    (background (accept service listener.socket traffic) : Async Unit).block
  awaitSignal
  traffic.closed.set true
  log CommandLine.Startup.told
  for task in ← traffic.busy.get do
    task.block
  log CommandLine.Startup.stopped

/-- A run of the program; returns its exit code. -/
def run (arguments : List String) : IO UInt32 := do
  let environment ← IO.getEnv "RUST_LOG"
  let content ← match CommandLine.Arguments.parse arguments with
    | .ok (.run (some path)) => readFile path
    | _ => pure (.error SystemFault.missing)
  let settings := CommandLine.settings? (siteOf environment content noSockets) arguments
  let sockets ← match settings with
    | some settings => openSockets settings
    | none => pure noSockets
  let site := siteOf environment content sockets
  let report := CommandLine.run site arguments
  printLines report.printed
  printLog report.logged
  IO.eprint report.error
  match report.exit, settings with
  | none, some settings =>
    let totals ← IO.mkRef []
    serve ⟨settings, ⟨settings.backend.address⟩, CommandLine.filterOf site settings, totals⟩
      sockets
    return 0
  | code, _ => return (code.getD 1).toUInt32

end GitGateway.Program

/-- The program. -/
def main (arguments : List String) : IO UInt32 :=
  GitGateway.Program.run arguments
