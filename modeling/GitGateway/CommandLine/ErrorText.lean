import GitGateway.Http.Authority
import GitGateway.Settings.Load

/-!
# Errors that end the program

What is printed to standard error before the program exits: the cause as a record,
its names as they are and its texts quoted.

- `shownLoadError` — there are no settings;
- `shownFault` — the listening address cannot be bound;
- `shownAddressError` — the backend address is no authority;
- `errorText` — the line around any of them.
-/

namespace GitGateway.CommandLine

open Settings (FileError LoadError Problem)

/-- A field of a record as errors show it. -/
def shownText (name value : String) : String :=
  name ++ ": " ++ Quoted.render value

/-- Fields between braces behind the name of a record. -/
def shownRecord (name : String) (fields : List String) : String :=
  name ++ " \x7b " ++ ", ".intercalate fields ++ " \x7d"

/-- A system fault as errors show it. -/
def shownFault (fault : SystemFault) : String :=
  shownRecord "Os" ["code: " ++ toString fault.code, "kind: " ++ fault.kind.name,
    shownText "message" fault.message]

/-- A failure with its own wording as errors show it. -/
def shownFailure (fault : Fault) : String :=
  shownRecord "Error" ["kind: " ++ fault.kind.name, shownText "message" fault.message]

/-- A file error as errors show it. -/
def shownFileError : FileError → String
  | .system fault => shownFault fault
  | .notText => shownFailure ⟨.invalidData, FileError.notText.message⟩

/-- A problem as errors show it. -/
def shownProblem : Problem → String
  | .invalidAddress field value =>
    shownRecord "InvalidAddress" [shownText "field" field, shownText "value" value]
  | .emptyBackendAddress => "EmptyBackendAddress"
  | .zeroTimeout field => "ZeroTimeout(" ++ Quoted.render field ++ ")"
  | .unknownLogLevel value => "UnknownLogLevel(" ++ Quoted.render value ++ ")"

/-- Why there are no settings, as errors show it. The reason why a text is no
settings document is left out. -/
def shownLoadError : LoadError → String
  | .file error => "Io(" ++ shownFileError error ++ ")"
  | .malformed => "Parse(..)"
  | .invalid problems => "Validation([" ++ ", ".intercalate (problems.map shownProblem) ++ "])"

/-- The kind of a bad authority, as errors show it. -/
def shownReason : Http.AuthorityError → String
  | .empty => "InvalidUri(Empty)"
  | .invalidCharacter => "InvalidUri(InvalidUriChar)"
  | .invalidAuthority => "InvalidUri(InvalidAuthority)"

/-- A backend address that is no authority, as errors show it. -/
def shownAddressError (address : String) (reason : Http.AuthorityError) : String :=
  shownRecord "InvalidAddress" [shownText "address" address, "source: " ++ shownReason reason]

/-- The line for an error that ends the program. -/
def errorText (shown : String) : String :=
  "Error: " ++ shown ++ "\n"

end GitGateway.CommandLine
