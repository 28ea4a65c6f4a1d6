/-!
# Authorities

The part of a URI that says where to connect: a host, with user information in
front of it and a port behind it if need be. An address is accepted when one scan
gets through all of it:

- only characters that a URI may hold are met, and a percent sign only in the
  user information or between brackets;
- at most one pair of brackets, and at most one colon after it (or after the last
  `@`);
- something after the last `@`.

The host itself is not looked at.
-/

namespace GitGateway.Http

/-- Why an address is no authority. -/
inductive AuthorityError where
  | empty
  | invalidCharacter
  | invalidAuthority
  deriving DecidableEq, Repr

/-- The wording of an error. -/
def AuthorityError.message : AuthorityError → String
  | .empty => "empty string"
  | .invalidCharacter => "invalid uri character"
  | .invalidAuthority => "invalid authority"

namespace Authority

/-- What a scan has met since the last `@` or closing bracket, and of brackets. -/
structure Scan where
  colons : Nat := 0
  percent : Bool := false
  opened : Bool := false
  closed : Bool := false
  /-- The last character was an `@`. -/
  atSign : Bool := false
  deriving DecidableEq, Repr

/-- The most colons that a scan counts. -/
def maxColons : Nat := 8

/-- Whether an authority may hold a character without more ado. -/
def isPlain (c : Char) : Bool :=
  c.isAlphanum || "!$&'()*+,-.;=_~".toList.contains c

/-- Whether a character ends the authority in a URI. -/
def isEnd (c : Char) : Bool :=
  c == '/' || c == '?' || c == '#'

/-- One more character. -/
def Scan.step (scan : Scan) (c : Char) : Except AuthorityError Scan :=
  let scan := { scan with atSign := false }
  if c == ':' then
    if scan.colons < maxColons then .ok { scan with colons := scan.colons + 1 }
    else .error .invalidAuthority
  else if c == '[' then
    if scan.percent || scan.opened then .error .invalidAuthority
    else .ok { scan with opened := true }
  else if c == ']' then
    if !scan.opened || scan.closed then .error .invalidAuthority
    else .ok { scan with closed := true, colons := 0, percent := false }
  else if c == '@' then
    .ok { scan with atSign := true, colons := 0, percent := false }
  else if c == '%' then .ok { scan with percent := true }
  else if isPlain c then .ok scan
  else .error .invalidCharacter

/-- Whether an authority may end here. -/
def Scan.complete (scan : Scan) : Bool :=
  scan.opened == scan.closed && scan.colons ≤ 1 && !scan.atSign && !scan.percent

/-- Scans up to the first character that ends an authority, and returns the text
from there on. -/
def scan (state : Scan) : List Char → Except AuthorityError (List Char)
  | [] => if state.complete then .ok [] else .error .invalidAuthority
  | c :: rest =>
    if isEnd c then
      if state.complete then .ok (c :: rest) else .error .invalidAuthority
    else
      match state.step c with
      | .ok state => scan state rest
      | .error e => .error e

/-- Checks that the whole of an address is an authority. -/
def check (address : String) : Except AuthorityError Unit :=
  if address.isEmpty then .error .empty
  else
    match scan {} address.toList with
    | .ok [] => .ok ()
    | .ok (_ :: _) => .error .invalidCharacter
    | .error e => .error e

/-- The host and port of an authority: what follows its last `@`. -/
def hostPort (authority : String) : String :=
  String.ofList ((authority.toList.reverse.takeWhile (· != '@')).reverse)

/-- The host of an authority; one in brackets keeps them. -/
def host (authority : String) : String :=
  match (hostPort authority).toList with
  | '[' :: rest => String.ofList ('[' :: rest.takeWhile (· != ']') ++ [']'])
  | chars => String.ofList (chars.takeWhile (· != ':'))

/-- The digits of a number that may have a plus sign in front. -/
def unsigned : List Char → List Char
  | '+' :: digits => digits
  | digits => digits

/-- The port of an authority, if it has one that is a number of 16 bits. -/
def port? (authority : String) : Option Nat :=
  let chars := (hostPort authority).toList.reverse
  let last := (chars.takeWhile (· != ':')).reverse
  let digits := unsigned last
  if last.length < chars.length && !digits.isEmpty && digits.all Char.isDigit then
    let port := digits.foldl (fun value c => value * 10 + (c.toNat - '0'.toNat)) 0
    if port ≤ 65535 then some port else none
  else none

/-- The host as a header names it, with the port unless it is the usual one. -/
def hostHeader (authority : String) : String :=
  match port? authority with
  | none | some 80 => host authority
  | some port => host authority ++ ":" ++ toString port

end Authority

end GitGateway.Http
