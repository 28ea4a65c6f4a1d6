import GitGateway.Operation
import GitGateway.PktLine.Frame

/-!
# Busy notices

What a Git client is told when the backend has no capacity left, in the framing
that makes Git print it.

- a push is answered with a report that nothing was unpacked, on the data band,
  then the message on the progress band, then a flush packet. The report has
  pkt-line framing of its own inside its frame;
- a fetch is answered with a single `ERR` line, which Git prints before it stops.
-/

namespace GitGateway.BusyNotice

/-- The line of the report on a push. -/
def unpackLine : String := "unpack server is busy\n"

/-- The message for the user, with the ID as it is given. -/
def message (id : String) : String :=
  "GitLab is currently unable to handle this request due to load (ID " ++ id ++ ").\n"

/-- The report on a push: one line and a flush packet. -/
def report : Bytes :=
  (Frame.data (Utf8.encode unpackLine)).octets ++ Frame.flush.octets

/-- The frames of a notice. -/
def frames : Operation → String → List Frame
  | .receivePack, id =>
    [.banded .data report, .banded .progress (Utf8.encode (message id)), .flush]
  | .uploadPack, id => [.data (Utf8.encode ("ERR " ++ message id))]

/-- Sends a notice. -/
def write {σ : Type} (sink : Sink σ) (session : Session σ) (operation : Operation) (id : String) :
    Except WriteError Unit × Session σ :=
  Frame.writeAll sink session (frames operation id)

/-- A notice as one run of octets. -/
def octets (operation : Operation) (id : String) : Bytes :=
  (frames operation id).flatMap Frame.octets

end GitGateway.BusyNotice
