import GitGateway.Http.Target
import GitGateway.Text.Utf8

/-!
# Requests and responses

A message has headers, a list of names and values in which a name may come more
than once. Names are compared without regard to case, so they are kept in lower
case; values are octets.
-/

namespace GitGateway.Http

/-- Header lines in order. -/
abbrev Headers := List (String × Bytes)

namespace Headers

/-- Whether an octet may stand in a header value: a tab, or anything but a control
character. -/
def isValueOctet (b : UInt8) : Bool :=
  b == 0x09 || (0x20 ≤ b && b != 0x7F)

/-- Whether octets are a header value. -/
def isValue (value : Bytes) : Bool :=
  value.all isValueOctet

/-- The values under a name, in order. -/
def values (headers : Headers) (name : String) : List Bytes :=
  (headers.filter fun header => header.1 == name).map Prod.snd

/-- The first value under a name. -/
def first? (headers : Headers) (name : String) : Option Bytes :=
  (headers.values name).head?

/-- The headers with every line of a name taken out. -/
def remove (headers : Headers) (name : String) : Headers :=
  headers.filter fun header => header.1 != name

/-- The headers with one more line, unless the name is there already. -/
def addIfMissing (headers : Headers) (name : String) (value : Bytes) : Headers :=
  if (headers.first? name).isSome then headers else headers ++ [(name, value)]

end Headers

/-- A request. -/
structure Request where
  method : String
  target : Target
  headers : Headers
  body : Bytes
  deriving DecidableEq, Repr

/-- The octets of a body, and whether they are all of it: a connection that breaks
off leaves part of a body. -/
structure Body where
  octets : Bytes
  complete : Bool := true
  /-- The length was known before the body was read. -/
  sized : Bool := true
  deriving DecidableEq, Repr

/-- A response. -/
structure Response where
  status : Nat
  headers : Headers
  body : Body
  deriving DecidableEq, Repr

/-- Whether a status says that the request was carried out. -/
def isSuccess (status : Nat) : Bool :=
  200 ≤ status && status ≤ 299

end GitGateway.Http
