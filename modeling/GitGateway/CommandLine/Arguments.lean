import GitGateway.Text.Similarity
import GitGateway.Text.Terminal

/-!
# Command-line arguments

One option, `--config` or `-c` with a file, and `--help` or `-h`.

- `Arguments.parse` — what the arguments ask for, or what is wrong with them;
- `Arguments.helpLines` — the answer to `--help`;
- `ArgumentError.text` — an error as it is printed.

A value may follow the option as an argument of its own, which is only taken in
when the next option is met or the arguments end. So an error behind it can come
first, and a value is missing only then.
-/

namespace GitGateway.CommandLine

/-- What the arguments ask for. -/
inductive Command where
  /-- Run, with a settings file or without. -/
  | run (config : Option String)
  | help
  deriving DecidableEq, Repr

/-- What is wrong with the arguments. The flags say that the option was given before, as
the usage line then shows it. -/
inductive ArgumentError where
  /-- An argument that nothing asks for. -/
  | unexpected (argument : String)
  /-- An option that does not exist, and one that is like it. -/
  | unknownOption (name : String) (similar : Option String) (configGiven : Bool)
  /-- A value for an option that has none. Here the option only counts as given if its
  value has been taken in. -/
  | needlessValue (value : String) (configTaken : Bool)
  /-- The option has no value. -/
  | missingValue
  /-- The option comes twice. -/
  | repeated
  deriving DecidableEq, Repr

/-- The program, as it calls itself. -/
def programName : String := "git-overload-proxy"

/-- The option as messages name it. -/
def configUsage : String := "--config <CONFIG>"

/-- The option as one of a group. -/
def groupUsage : String := "<" ++ configUsage ++ ">"

/-- The usage line. With no options to show it is the general one. -/
def usage (options : List String) : String :=
  "Usage: " ++ programName ++
    (if options.isEmpty then " [OPTIONS]" else String.join (options.map (" " ++ ·)))

/-- The last line of every error. -/
def helpHint : String := "For more information, try '--help'."

/-- The options to show when the file option was given, or another is like it. -/
def shownOptions (configGiven : Bool) (similar : Option String) : List String :=
  (if configGiven || similar == some "config" then [configUsage] else []) ++
    (if similar == some "help" then ["--help"] else [])

namespace ArgumentError

/-- An argument as a message shows it: no control sequence in it may reach a terminal. -/
def shown (argument : String) : String :=
  "'" ++ Terminal.visible argument ++ "'"

/-- An error as paragraphs. -/
def paragraphs : ArgumentError → List String
  | .unexpected argument =>
    ["error: unexpected argument " ++ shown argument ++ " found", usage [], helpHint]
  | .unknownOption name similar configGiven =>
    ["error: unexpected argument " ++ shown ("--" ++ name) ++ " found"] ++
    (similar.map fun other => "  tip: a similar argument exists: '--" ++ other ++ "'").toList ++
    [usage (shownOptions configGiven similar), helpHint]
  | .needlessValue value configTaken =>
    ["error: unexpected value " ++ shown value ++ " for '--help' found; no more were expected",
      usage ("--help" :: if configTaken then [groupUsage] else []), helpHint]
  | .missingValue =>
    ["error: a value is required for '" ++ configUsage ++ "' but none was supplied", helpHint]
  | .repeated =>
    ["error: the argument '" ++ configUsage ++ "' cannot be used multiple times", usage [],
      helpHint]

/-- An error as it is printed. -/
def text (error : ArgumentError) : String :=
  "\n\n".intercalate error.paragraphs ++ "\n"

end ArgumentError

namespace Arguments

/-- The answer to `--help`, line by line. -/
def helpLines : List String :=
  ["Git smart-HTTP proxy with graceful overload responses", "", usage [], "", "Options:",
    "  -c, --config <CONFIG>  Path to a TOML configuration file. Defaults are used when omitted",
    "  -h, --help             Print help"]

/-- The value of an option that is still to be taken in. -/
inductive Pending where
  | nothing
  /-- The option was met, its value was not. -/
  | awaited
  | given (value : String)
  deriving DecidableEq, Repr

/-- The value taken in so far, and the one that is pending. -/
structure State where
  config : Option String := none
  pending : Pending := .nothing
  deriving DecidableEq, Repr

/-- Takes in a value: the option may come once, and an empty value is none. -/
def State.take (state : State) (value : String) : Except ArgumentError State :=
  if state.config.isSome then .error .repeated
  else if value.isEmpty then .error .missingValue
  else .ok { config := some value }

/-- Takes in what is pending. -/
def State.settle (state : State) : Except ArgumentError State :=
  match state.pending with
  | .nothing => .ok state
  | .awaited => .error .missingValue
  | .given value => state.take value

/-- Whether the option has come with a value, be it an empty one. -/
def State.isGiven (state : State) : Bool :=
  state.config.isSome || state.pending matches .given _

/-- What an argument leads to. -/
inductive Step where
  | next (state : State)
  | help

/-- A long option, from behind its hyphens on. -/
def long (state : State) (argument : List Char) : Except ArgumentError Step := do
  let name := String.ofList (argument.takeWhile (· != '='))
  let value : Option String := match argument.dropWhile (· != '=') with
    | [] => none
    | _ :: rest => some (String.ofList rest)
  match name, value with
  | "help", none => do
    let _ ← state.settle
    return .help
  | "help", some value => throw (.needlessValue value state.config.isSome)
  | "config", none => return .next { ← state.settle with pending := .awaited }
  | "config", some value => return .next (← (← state.settle).take value)
  | name, _ =>
    throw (.unknownOption name (Similarity.closest? name ["config", "help"]) state.isGiven)

/-- A short option with what is attached to it, from behind its hyphen on. -/
def short (state : State) (option : Char) (attached : List Char) :
    Except ArgumentError Step := do
  match option, attached with
  | 'h', _ => do
    let _ ← state.settle
    return .help
  | 'c', [] => return .next { ← state.settle with pending := .awaited }
  | 'c', '=' :: value => return .next (← (← state.settle).take (String.ofList value))
  | 'c', value => return .next (← (← state.settle).take (String.ofList value))
  | other, _ => throw (.unexpected (String.ofList ['-', other]))

/-- An argument that is no option. -/
def plain (state : State) (argument : String) : Except ArgumentError Step :=
  match state.pending with
  | .awaited => .ok (.next { state with pending := .given argument })
  | _ => .error (.unexpected argument)

/-- What the arguments ask for, from a state on. -/
def parseFrom (state : State) : List String → Except ArgumentError Command
  | [] => do return .run (← state.settle).config
  | argument :: rest => do
    match argument.toList with
    | ['-', '-'] =>
      match rest with
      | [] => return .run (← state.settle).config
      | extra :: _ => throw (.unexpected extra)
    | '-' :: '-' :: name => follow rest (← long state name)
    | '-' :: option :: attached => follow rest (← short state option attached)
    | _ => follow rest (← plain state argument)
where
  /-- Goes on with the arguments after a step. -/
  follow (rest : List String) : Step → Except ArgumentError Command
    | .help => .ok .help
    | .next state => parseFrom state rest

/-- What the arguments ask for. -/
def parse (arguments : List String) : Except ArgumentError Command :=
  parseFrom {} arguments

end Arguments

end GitGateway.CommandLine
