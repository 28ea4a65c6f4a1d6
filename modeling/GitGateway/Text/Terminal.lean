import GitGateway.Text.Utf8

/-!
# Text on a terminal

What a terminal would show of a text that may hold control sequences: the characters
outside of them. A sequence starts with an escape character and ends in a way that
depends on its kind.

- `Terminal.Mode` — the kinds of sequence;
- `Terminal.step` — one more character, and whether it shows;
- `Terminal.visible` — the characters that show.

Of the control characters only white space shows, also inside a sequence. From there
on everything shows up to the next character that cannot, where the sequence is taken
up again.
-/

namespace GitGateway

/-- Where in a control sequence a place is. -/
inductive Terminal.Mode where
  | ground
  | escape
  /-- After an escape with an intermediate character. -/
  | intermediate
  /-- In a control sequence, which ends at its final character. -/
  | control
  /-- In front of a device control string: at its start, in its parameters, and behind
  an intermediate character. -/
  | deviceStart
  | deviceParameters
  | deviceIntermediate
  /-- In a string that only a string terminator ends. -/
  | string
  /-- In a string that a bell ends too. -/
  | command
  deriving DecidableEq, Repr

/-- A place in a text. -/
structure Terminal where
  mode : Terminal.Mode := .ground
  /-- Everything shows up to the next character that cannot. -/
  flowing : Bool := false
  deriving DecidableEq, Repr

namespace Terminal

/-- Whether a character lies between two code points. -/
def within (c : Char) (first last : Nat) : Bool :=
  first ≤ c.toNat && c.toNat ≤ last

/-- The control characters that show. -/
def isLayout (c : Char) : Bool :=
  c == '\t' || c == '\n' || c == '\x0c' || c == '\r'

/-- Whether a character shows where there is no control sequence. -/
def isShown (c : Char) : Bool :=
  isLayout c || (0x20 ≤ c.toNat && c.toNat != 0x7F)

/-- The mode behind an escape and a character. -/
def afterEscape (c : Char) : Mode :=
  if within c 0x20 0x2F then .intermediate
  else if c == '[' then .control
  else if c == ']' then .command
  else if c == 'P' then .deviceStart
  else if c == 'X' || c == '^' || c == '_' then .string
  else if within c 0x30 0x7E then .ground
  else .escape

/-- The mode behind a character of a sequence that is neither an escape nor a
cancelling control. An octet of a character beyond ASCII can be a string terminator of
its own. -/
def Mode.next (mode : Mode) (c : Char) : Mode :=
  match mode with
  | .ground => .ground
  | .escape => afterEscape c
  | .intermediate => if within c 0x30 0x7E then .ground else .intermediate
  | .control => if within c 0x40 0x7E then .ground else .control
  | .deviceStart =>
    if within c 0x20 0x2F then .deviceIntermediate
    else if within c 0x30 0x3F then .deviceParameters
    else if within c 0x40 0x7E then .string
    else .deviceStart
  | .deviceParameters =>
    if within c 0x20 0x2F then .deviceIntermediate
    else if within c 0x3C 0x7E then .string
    else .deviceParameters
  | .deviceIntermediate =>
    if within c 0x30 0x7E then .string else .deviceIntermediate
  | .string => if (Utf8.encode (String.singleton c)).contains 0x9C then .ground else .string
  | .command => if c == '\x07' then .ground else .command

/-- Whether a character shows in a mode. -/
def Mode.shows (mode : Mode) (c : Char) : Bool :=
  match mode with
  | .ground => isShown c
  | .escape | .intermediate | .control => isLayout c
  | _ => false

/-- One more character: whether it shows, and the place behind it. -/
def step (place : Terminal) (c : Char) : Bool × Terminal :=
  if c == '\x1b' then (false, { mode := .escape })
  else if c == '\x18' || c == '\x1a' then (false, { mode := .ground })
  else if place.flowing && isShown c then
    (true, { mode := if c.toNat < 128 then place.mode else .ground, flowing := true })
  else if place.mode.shows c then
    (true, { mode := place.mode, flowing := true })
  else (false, { mode := place.mode.next c })

/-- The characters that show, from a place on. -/
def visibleFrom : Terminal → List Char → List Char
  | _, [] => []
  | place, c :: rest =>
    let (shown, place) := place.step c
    if shown then c :: visibleFrom place rest else visibleFrom place rest

/-- The characters of a text that show. -/
def visible (text : String) : String :=
  String.ofList (visibleFrom {} text.toList)

end Terminal

end GitGateway
