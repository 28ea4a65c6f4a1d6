/-!
# Faults

What the operating system says when an operation on a connection or a file fails.

- `FaultKind` — the kinds of fault;
- `Fault` — a failure with a wording of its own;
- `SystemFault` — a failure under the code and the wording of the system.
-/

namespace GitGateway

/-- The kinds of fault that callers tell apart. -/
inductive FaultKind where
  | addrInUse
  | addrNotAvailable
  | alreadyExists
  | brokenPipe
  | connectionAborted
  | connectionRefused
  | connectionReset
  | hostUnreachable
  | interrupted
  | invalidData
  | invalidFilename
  | invalidInput
  | isADirectory
  | networkUnreachable
  | notADirectory
  | notConnected
  | notFound
  | other
  | outOfMemory
  | permissionDenied
  | timedOut
  | unexpectedEof
  | unsupported
  | wouldBlock
  | writeZero
  deriving DecidableEq, Repr

namespace FaultKind

/-- The name of a kind. -/
def name : FaultKind → String
  | addrInUse => "AddrInUse"
  | addrNotAvailable => "AddrNotAvailable"
  | alreadyExists => "AlreadyExists"
  | brokenPipe => "BrokenPipe"
  | connectionAborted => "ConnectionAborted"
  | connectionRefused => "ConnectionRefused"
  | connectionReset => "ConnectionReset"
  | hostUnreachable => "HostUnreachable"
  | interrupted => "Interrupted"
  | invalidData => "InvalidData"
  | invalidFilename => "InvalidFilename"
  | invalidInput => "InvalidInput"
  | isADirectory => "IsADirectory"
  | networkUnreachable => "NetworkUnreachable"
  | notADirectory => "NotADirectory"
  | notConnected => "NotConnected"
  | notFound => "NotFound"
  | other => "Other"
  | outOfMemory => "OutOfMemory"
  | permissionDenied => "PermissionDenied"
  | timedOut => "TimedOut"
  | unexpectedEof => "UnexpectedEof"
  | unsupported => "Unsupported"
  | wouldBlock => "WouldBlock"
  | writeZero => "WriteZero"

/-- A kind in words, for a fault that has no wording of its own. -/
def text : FaultKind → String
  | addrInUse => "address in use"
  | addrNotAvailable => "address not available"
  | alreadyExists => "entity already exists"
  | brokenPipe => "broken pipe"
  | connectionAborted => "connection aborted"
  | connectionRefused => "connection refused"
  | connectionReset => "connection reset"
  | hostUnreachable => "host unreachable"
  | interrupted => "operation interrupted"
  | invalidData => "invalid data"
  | invalidFilename => "invalid filename"
  | invalidInput => "invalid input parameter"
  | isADirectory => "is a directory"
  | networkUnreachable => "network unreachable"
  | notADirectory => "not a directory"
  | notConnected => "not connected"
  | notFound => "entity not found"
  | other => "other error"
  | outOfMemory => "out of memory"
  | permissionDenied => "permission denied"
  | timedOut => "timed out"
  | unexpectedEof => "unexpected end of file"
  | unsupported => "unsupported"
  | wouldBlock => "operation would block"
  | writeZero => "write zero"

/-- Every kind. -/
def all : List FaultKind :=
  [.addrInUse, .addrNotAvailable, .alreadyExists, .brokenPipe, .connectionAborted,
    .connectionRefused, .connectionReset, .hostUnreachable, .interrupted, .invalidData,
    .invalidFilename, .invalidInput, .isADirectory, .networkUnreachable, .notADirectory,
    .notConnected, .notFound, .other, .outOfMemory, .permissionDenied, .timedOut,
    .unexpectedEof, .unsupported, .wouldBlock, .writeZero]

/-- The kind of that name. -/
def ofName? (name : String) : Option FaultKind :=
  all.find? fun kind => kind.name == name

end FaultKind

/-- A failure with its own wording. -/
structure Fault where
  kind : FaultKind
  message : String
  deriving DecidableEq, Repr

/-- A failure as the operating system reports it. -/
structure SystemFault where
  code : Nat
  kind : FaultKind
  message : String
  deriving DecidableEq, Repr

namespace SystemFault

/-- There is no such file. -/
def missing : SystemFault := ⟨2, .notFound, "No such file or directory"⟩

/-- The file is a directory. -/
def directory : SystemFault := ⟨21, .isADirectory, "Is a directory"⟩

/-- A file stands where a directory is needed. -/
def notDirectory : SystemFault := ⟨20, .notADirectory, "Not a directory"⟩

/-- The name of a file is too long. -/
def longName : SystemFault := ⟨36, .invalidFilename, "File name too long"⟩

/-- The operation is not allowed. -/
def denied : SystemFault := ⟨13, .permissionDenied, "Permission denied"⟩

/-- The address is taken. -/
def inUse : SystemFault := ⟨98, .addrInUse, "Address already in use"⟩

/-- The address is not one of this machine. -/
def notAvailable : SystemFault := ⟨99, .addrNotAvailable, "Cannot assign requested address"⟩

/-- The fault with the given code; the wording is for one that is not known here. -/
def ofCode (code : Nat) (wording : String) : SystemFault :=
  ([missing, denied, notDirectory, directory, longName, inUse, notAvailable].find? fun fault => fault.code == code).getD
    ⟨code, .other, wording⟩

/-- A system fault in words. -/
def text (fault : SystemFault) : String :=
  fault.message ++ " (os error " ++ toString fault.code ++ ")"

end SystemFault

end GitGateway
