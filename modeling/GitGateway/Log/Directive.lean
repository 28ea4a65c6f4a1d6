import GitGateway.Log.Pattern
import GitGateway.Log.Record
import GitGateway.Text.Alphanumeric
import GitGateway.Text.Blank
import GitGateway.Text.Utf8

/-!
# Log directives

A directive sets the level up to which records are kept. In front of the level it may
say of which records it speaks: of the parts of the program whose names start with a
target, of what happens in a span of some name, and of records with some field.

- `Threshold.ofText?` — a level, by its name or by its number;
- `Directive.ofString?` — the directive that a text spells: `level`, `target`, or
  `target[span{field=value}]=level`, where all but the level may be left out;
- `Directive.decides` — whether a directive speaks of a record outside of any span;
- `Directive.outranks` — which of two directives is the more special.

Blanks around a directive do not count when its parts are told apart, but each part is
then cut out at its place in the text as it came, blanks included.
-/

namespace GitGateway.Log

/-- Up to which level records are kept; `none` keeps nothing. -/
abbrev Threshold := Option Level

namespace Threshold

/-- The thresholds by number, from the one that keeps nothing up. -/
def byNumber : List Threshold :=
  [none, some .error, some .warn, some .info, some .debug, some .trace]

/-- The number that digits spell, a plus sign in front of them or not. -/
def number? (chars : List Char) : Option Nat :=
  let digits := match chars with
    | '+' :: rest => rest
    | _ => chars
  if !digits.isEmpty && digits.all Char.isDigit then
    some (digits.foldl (fun value c => value * 10 + (c.toNat - '0'.toNat)) 0)
  else none

/-- A threshold by its number or by its name in letters of any case. -/
def ofText? (text : String) : Option Threshold :=
  match number? text.toList with
  | some number => byNumber[number]?
  | none =>
    if text.toLower == "off" then some none
    else (Level.ofName? text).map some

/-- A threshold in words. -/
def name : Threshold → String
  | none => "off"
  | some level => level.name

end Threshold

/-- A field that a directive asks for, with a value or without. -/
structure FieldTest where
  name : String
  value : Option String
  deriving DecidableEq, Repr

/-- A part of a filter. -/
structure Directive where
  /-- The start of the names of parts that it speaks of; `none` speaks of all. -/
  target : Option String := none
  /-- The span that it speaks of. -/
  span : Option String := none
  /-- The field that it asks for. -/
  field : Option FieldTest := none
  threshold : Threshold := some .trace
  deriving DecidableEq, Repr

namespace Directive

/-! ## Reading -/

/-- The number of octets of some characters. -/
def width (chars : List Char) : Nat :=
  (Utf8.encode (String.ofList chars)).length

/-- The text between two places of another, counted in octets. -/
def cut? (text : Bytes) (start stop : Nat) : Option String :=
  Utf8.decode? ((text.drop start).take (stop - start))

/-- The text without blanks at either end. -/
def trimmed (text : String) : List Char :=
  ((text.toList.dropWhile isBlank).reverse.dropWhile isBlank).reverse

/-- A threshold at the end of a directive; none means all levels. -/
def levelAt? (text : Bytes) (start : Nat) : Option Threshold := do
  let level ← cut? text start text.length
  if level.isEmpty then some (some .trace) else Threshold.ofText? level

/-- A field test: a name, and a value behind an equals sign. -/
def fieldTest? (text : String) : Option FieldTest :=
  match text.splitOn "=" with
  | [name] => if name.isEmpty then none else some ⟨name, none⟩
  | name :: value :: _ => if Pattern.isValue value then some ⟨name, some value⟩ else none
  | [] => none

/-- What may follow the brackets: a level, or nothing. -/
def afterBrackets? (text : Bytes) (place : Nat) : List Char → Option Threshold
  | [] => some (some .trace)
  | '=' :: _ => levelAt? text (place + 1)
  | _ => none

/-- The inside of brackets and what follows it, from a place on. -/
def brackets? (text : Bytes) (target : Option String) (place : Nat) (chars : List Char) :
    Option Directive := do
  let isSpan (c : Char) := c != ']' && c != '\x7b'
  let stop := place + width (chars.takeWhile isSpan)
  let span ← cut? text place stop
  match chars.dropWhile isSpan with
  | ']' :: rest =>
    return { target, span := some span, threshold := ← afterBrackets? text (stop + 1) rest }
  | '\x7b' :: rest =>
    let isField (c : Char) := c != '\x7d'
    let last := stop + 1 + width (rest.takeWhile isField)
    let field ← fieldTest? (← cut? text (stop + 1) last)
    match rest.dropWhile isField with
    | '\x7d' :: ']' :: rest =>
      return {
        target
        span := if span.isEmpty then none else some span
        field := some field
        threshold := ← afterBrackets? text (last + 2) rest }
    | _ => none
  | _ => none

/-- Whether a directive may start with a character. -/
def isStart (c : Char) : Bool :=
  c == '-' || c == ':' || c == '_' || isAlphanumeric c

/-- The directive that a text spells. A text with no equals sign and no brackets is a
level, or else a target. -/
def ofString? (text : String) : Option Directive := do
  let octets := Utf8.encode text
  let chars := trimmed text
  match chars with
  | [] => none
  | '[' :: rest => brackets? octets none 1 rest
  | c :: _ =>
    if !isStart c then none
    let isTarget (c : Char) := c != '=' && c != '['
    let stop := width (chars.takeWhile isTarget)
    match chars.dropWhile isTarget with
    | '=' :: _ =>
      return { target := ← cut? octets 0 stop, threshold := ← levelAt? octets (stop + 1) }
    | '[' :: rest => brackets? octets (← cut? octets 0 stop) (stop + 1) rest
    | _ =>
      match Threshold.ofText? text with
      | some threshold => return { threshold }
      | none => return { target := text }

/-! ## Meaning -/

/-- Whether a directive speaks of records wherever they happen: it names no span, and
asks for no value. -/
def isGeneral (directive : Directive) : Bool :=
  directive.span.isNone && directive.field.all fun field => field.value.isNone

/-- Whether the name of a part starts with the target. -/
def covers (directive : Directive) (part : String) : Bool :=
  match directive.target with
  | none => true
  | some target => target.toList.isPrefixOf part.toList

/-- Whether a directive decides on a record of a part with the given fields. Where the
fields are not known, they are not asked for. -/
def decides (directive : Directive) (part : String) (fields : Option (List String)) : Bool :=
  directive.isGeneral && directive.covers part &&
    match directive.field, fields with
    | some field, some fields => fields.contains field.name
    | _, _ => true

/-- How much of the name of a part a directive gives, in octets and one more. -/
def reach (directive : Directive) : Nat :=
  match directive.target with
  | none => 0
  | some target => target.utf8ByteSize + 1

/-- The name of the field that a directive asks for. Every name comes after none. -/
def fieldName (directive : Directive) : Option String :=
  directive.field.map FieldTest.name

/-- Whether one name of a field comes after another. -/
def nameAfter : Option String → Option String → Bool
  | some name, some other => other < name
  | some _, none => true
  | none, _ => false

/-- Whether a directive comes before another that also decides: it gives more of the
name of the part, or as much, and a field that comes later. -/
def outranks (directive other : Directive) : Bool :=
  other.reach < directive.reach ||
    (directive.reach == other.reach && nameAfter directive.fieldName other.fieldName)

end Directive

end GitGateway.Log
