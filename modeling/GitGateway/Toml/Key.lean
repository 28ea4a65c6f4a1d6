import GitGateway.Toml.Text

/-!
# TOML keys

A key is a bare word or a string on one line; a dotted key is a path of keys.
-/

namespace GitGateway.Toml.Key

/-- Whether a character may stand in a bare key. -/
def isBare (c : Char) : Bool :=
  c.isAlphanum || c == '_' || c == '-'

/-- The most keys of a path. -/
def maxPath : Nat := 79

/-- One key. -/
def simple? (fuel : Nat) : Rest → Option (String × Rest)
  | '"' :: rest => Text.basic? fuel rest
  | '\'' :: rest => Text.literal? rest
  | text =>
    let bare := text.takeWhile isBare
    if bare.isEmpty then none else some (String.ofList bare, text.dropWhile isBare)

/-- Keys with points between them, and blanks around each; `seen` has the keys
before, last first. -/
def pathAfter : Nat → List String → Rest → Option (List String × Rest)
  | 0, _, _ => none
  | fuel + 1, seen, text =>
    match simple? fuel (skipSpace text) with
    | none => none
    | some (key, rest) =>
      match skipSpace rest with
      | '.' :: rest => pathAfter fuel (key :: seen) rest
      | rest => some ((key :: seen).reverse, rest)

/-- A dotted key: the path to its table, and the last key. -/
def read? (fuel : Nat) (text : Rest) : Option ((List String × String) × Rest) := do
  let (path, rest) ← pathAfter fuel [] text
  let last ← path.getLast?
  if maxPath < path.length then none
  return ((path.dropLast, last), rest)

end GitGateway.Toml.Key
