import GitGateway.Toml.DateTime
import GitGateway.Toml.Document
import GitGateway.Toml.Key
import GitGateway.Toml.Number

/-!
# Reading statements and values

- `Item.readAfter` — a value, of which arrays and tables between braces may nest;
- `Statement.read?` — one statement with the rest of its line;
- `Statement.readAll?` — the statements of a document;
- `Document.read?` — the tree of a document.
-/

namespace GitGateway.Toml

namespace Item

/-- How deep arrays and tables between braces may nest. -/
def maxDepth : Nat := 79

/-- A number, a date or a time. -/
def numeral? (text : Rest) : Option (Item × Rest) :=
  match DateTime.read? text with
  | some rest => some (.dateTime, rest)
  | none =>
    match Number.float text with
    | .float rest => some (.float, rest)
    | .refused => none
    | .nothing => (Number.integer? text).map fun (n, rest) => (.integer n, rest)

/-- A value that holds no others. -/
def scalar? (fuel : Nat) (text : Rest) : Option (Item × Rest) :=
  match text with
  | 't' :: 'r' :: 'u' :: 'e' :: rest => some (.boolean true, rest)
  | 'f' :: 'a' :: 'l' :: 's' :: 'e' :: rest => some (.boolean false, rest)
  | c :: _ =>
    if c == '"' || c == '\'' then
      (Text.read? fuel text).map fun (value, rest) => (.string value, rest)
    else numeral? text
  | [] => none

/-- The items of an array from behind its opening bracket or a comma on; `seen`
has the items before, last first. -/
def arrayAfter (read : Rest → Option (Item × Rest)) :
    Nat → Nat → List Item → Rest → Option (Item × Rest)
  | _, 0, _, _ => none
  | fuel, count + 1, seen, text =>
    match skipLines fuel text with
    | none => none
    | some (']' :: rest) => some (.array seen.reverse, rest)
    | some text =>
      match read text with
      | none => none
      | some (item, rest) =>
        match skipLines fuel rest with
        | some (',' :: rest) => arrayAfter read fuel count (item :: seen) rest
        | some (']' :: rest) => some (.array (item :: seen).reverse, rest)
        | _ => none

/-- The pairs of a table between braces from behind its brace or a comma on; `seen`
has the pairs before, last first. -/
def pairsAfter (read : Rest → Option (Item × Rest)) :
    Nat → Nat → List ((List String × String) × Item) → Rest → Option (Item × Rest)
  | _, 0, _, _ => none
  | fuel, count + 1, seen, text =>
    match Key.read? fuel text with
    | some (key, '=' :: rest) =>
      match read (skipSpace rest) with
      | none => none
      | some (item, rest) =>
        let seen := (key, item) :: seen
        match skipSpace rest with
        | ',' :: rest => pairsAfter read fuel count seen rest
        | '\x7d' :: rest => (Entries.ofPairs? seen.reverse).map fun entries =>
          (.table .inline entries, rest)
        | _ => none
    | _ => none

/-- A value in which at most `depth` containers lie inside one another. -/
def readAfter (fuel : Nat) : Nat → Rest → Option (Item × Rest)
  | 0, text => scalar? fuel text
  | depth + 1, text =>
    match text with
    | '[' :: rest => arrayAfter (readAfter fuel depth) fuel fuel [] rest
    | '\x7b' :: rest =>
      match skipSpace rest with
      | '\x7d' :: rest => some (.table .inline [], rest)
      | rest => pairsAfter (readAfter fuel depth) fuel fuel [] rest
    | text => scalar? fuel text

end Item

namespace Statement

/-- One statement, up to the end of its line. -/
def read? (fuel : Nat) (text : Rest) : Option (Statement × Rest) :=
  match text with
  | '[' :: '[' :: rest => do
    let ((path, name), rest) ← Key.read? fuel rest
    let rest ← lineRest? (← char? ']' (← char? ']' rest))
    return (.element path name, rest)
  | '[' :: rest => do
    let ((path, name), rest) ← Key.read? fuel rest
    let rest ← lineRest? (← char? ']' rest)
    return (.table path name, rest)
  | _ => do
    let ((path, key), rest) ← Key.read? fuel text
    let rest ← char? '=' rest
    let (value, rest) ← Item.readAfter fuel Item.maxDepth (skipSpace rest)
    let rest ← lineRest? rest
    return (.assign path key value, rest)

/-- The statements up to the end of a document; `seen` has those before, last
first. -/
def readAfter : Nat → List Statement → Rest → Option (List Statement)
  | 0, _, _ => none
  | fuel + 1, seen, text =>
    match skipSpace text with
    | [] => some seen.reverse
    | '#' :: rest => (lineRest? ('#' :: rest)).bind (readAfter fuel seen)
    | '\n' :: rest => readAfter fuel seen rest
    | '\r' :: rest => (newline? ('\r' :: rest)).bind (readAfter fuel seen)
    | text =>
      match read? fuel text with
      | some (statement, rest) => readAfter fuel (statement :: seen) rest
      | none => none

/-- The statements of a document. A byte order mark in front is dropped. -/
def readAll? (text : String) : Option (List Statement) :=
  let chars := match text.toList with
    | '\uFEFF' :: rest => rest
    | chars => chars
  readAfter (chars.length + 1) [] chars

end Statement

/-- The tree of a document. -/
def Document.read? (text : String) : Option Entries :=
  (Statement.readAll? text).bind Document.build?

end GitGateway.Toml
