import GitGateway.PktLine.Length
import GitGateway.Sink

/-!
# Writing pkt-lines

A frame is one pkt-line as it is written: plain data, data on a side-band
channel, or the flush packet.

- `Frame.parts` — the runs of octets that a frame is sent in: the length field, the
  band octet if there is one, and the payload;
- `Frame.octets` — the frame as one run;
- `Frame.write` — sends a frame to a sink, after a check of its length;
- `Frame.writeAll` — sends several frames, up to the first failure.

The parts go out one by one, so a sink that fails can be left with part of a
frame; a frame that is too long is refused before its first octet.
-/

namespace GitGateway

/-- A side-band channel. -/
inductive Band where
  /-- Pack data, or the report on a push. -/
  | data
  /-- Messages for the user. -/
  | progress
  deriving DecidableEq, Repr

/-- The octet that selects a channel. -/
def Band.octet : Band → UInt8
  | .data => 1
  | .progress => 2

/-- A pkt-line to be written. -/
inductive Frame where
  | data (payload : Bytes)
  | banded (band : Band) (payload : Bytes)
  | flush
  deriving DecidableEq, Repr

namespace Frame

/-- What follows the length field; the flush packet has nothing of the kind. -/
def body : Frame → Bytes
  | .data payload => payload
  | .banded band payload => band.octet :: payload
  | .flush => []

/-- The runs in which a frame is sent. -/
def parts : Frame → List Bytes
  | .data payload => [PktLine.lengthField payload.length, payload]
  | .banded band payload =>
    [PktLine.lengthField (payload.length + 1), [band.octet], payload]
  | .flush => [[48, 48, 48, 48]]

/-- A frame as one run of octets. -/
def octets (frame : Frame) : Bytes :=
  frame.parts.flatten

variable {σ : Type}

/-- Sends one frame. -/
def write (sink : Sink σ) (session : Session σ) (frame : Frame) :
    Except WriteError Unit × Session σ :=
  if PktLine.maxPayload < frame.body.length then
    (.error (.oversized frame.body.length), session)
  else
    sink.sendAll session frame.parts

/-- Sends the frames one after the other, up to the first failure. -/
def writeAll (sink : Sink σ) (session : Session σ) :
    List Frame → Except WriteError Unit × Session σ
  | [] => (.ok (), session)
  | frame :: rest =>
    match frame.write sink session with
    | (.ok (), session) => writeAll sink session rest
    | failure => failure

end Frame

/-- The kind of a write that did not succeed. -/
def WriteError.kind : WriteError → FaultKind
  | .oversized _ => .invalidInput
  | .stalled => .writeZero
  | .fault cause => cause.kind

/-- The wording of a write that did not succeed. -/
def WriteError.message : WriteError → String
  | .oversized length =>
    "pkt-line payload of " ++ toString length ++ " bytes exceeds " ++ toString PktLine.maxPayload
  | .stalled => "failed to write whole buffer"
  | .fault cause => cause.message

end GitGateway
