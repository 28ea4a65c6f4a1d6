import GitGateway.Text.Alphanumeric
import GitGateway.Text.Hex

/-!
# Regular expressions

Here is only told which texts are regular expressions, not what they match.

- `Expression.escape?` — what a backslash and the characters after it stand for;
- `Expression.afterClass?` — the end of a class between brackets;
- `Expression.afterOpening?` — the end of what marks a group;
- `Expression.isValid` — whether a text is an expression.

A text is taken to hold no comma and no closing brace, as it comes from a log directive,
so that there are no counted repetitions and no names between braces. Nothing looks
backwards or ahead, and there are no references to groups.
-/

namespace GitGateway.Log.Expression

/-! ## Characters after a backslash -/

/-- What a backslash and the characters after it stand for. -/
inductive Escape where
  /-- A character, by its code point. -/
  | literal (code : Nat)
  /-- Any character of a class. -/
  | anyOf
  /-- A place in a text: its start or its end. -/
  | place
  deriving DecidableEq, Repr

/-- The value of a hexadecimal digit. -/
def hexValue? (c : Char) : Option Nat :=
  if c.toNat < 128 then Hex.value? (UInt8.ofNat c.toNat) else none

/-- The character whose code point is spelt by as many hexadecimal digits. -/
def coded? (count : Nat) (chars : List Char) : Option (Escape × List Char) := do
  let digits ← (chars.take count).mapM hexValue?
  let code := digits.foldl (fun value digit => value * 16 + digit) 0
  if digits.length = count ∧ code.isValidChar then
    return (.literal code, chars.drop count)
  else none

/-- The letters of the general categories. -/
def categories : List Char := "CLMNPSZ".toList

/-- Characters that are named by a letter, and their code points. -/
def namedCharacters : List (Char × Nat) :=
  [('a', 0x07), ('t', 0x09), ('n', 0x0A), ('v', 0x0B), ('f', 0x0C), ('r', 0x0D)]

/-- Whether a character may be written with a backslash although it needs none: the
signs of ASCII, but for two that mark the ends of words. -/
def isSign (c : Char) : Bool :=
  c.toNat < 128 && !c.isAlphanum && c != '<' && c != '>'

/-- What the characters after a backslash stand for, and what follows them. The start or
the end of a word is no place that can be asked for. -/
def escape? : List Char → Option (Escape × List Char)
  | [] => none
  | c :: rest =>
    if c == 'x' then coded? 2 rest
    else if c == 'u' then coded? 4 rest
    else if c == 'U' then coded? 8 rest
    else if c == 'p' || c == 'P' then
      match rest with
      | letter :: rest => if categories.contains letter.toUpper then some (.anyOf, rest) else none
      | [] => none
    else if "dDsSwW".toList.contains c then some (.anyOf, rest)
    else if c == 'A' || c == 'z' then some (.place, rest)
    else if isSign c then some (.literal c.toNat, rest)
    else (namedCharacters.lookup c).map fun code => (.literal code, rest)

/-! ## Classes -/

/-- The classes that have a name, as in `[:digit:]`. -/
def classNames : List String :=
  ["alnum", "alpha", "ascii", "blank", "cntrl", "digit", "graph", "lower", "print",
    "punct", "space", "upper", "word", "xdigit"]

/-- What follows a class that is given by its name, from behind its opening bracket on. -/
def afterName? : List Char → Option (List Char)
  | ':' :: rest =>
    let name := match rest with
      | '^' :: rest => rest
      | rest => rest
    match name.dropWhile (· != ':') with
    | ':' :: ']' :: after =>
      if classNames.contains (String.ofList (name.takeWhile (· != ':'))) then some after else none
    | _ => none
  | _ => none

/-- What follows the start of a class: a caret may come first, and then a bracket or
hyphens that are members. -/
def afterStart (chars : List Char) : List Char :=
  let members := match chars with
    | '^' :: rest => rest
    | rest => rest
  match members with
  | ']' :: rest => rest
  | rest => rest.dropWhile (· == '-')

/-- A member of a class, and what follows it. -/
def member? : List Char → Option (Escape × List Char)
  | [] => none
  | '\\' :: rest => escape? rest
  | c :: rest => some (.literal c.toNat, rest)

/-- What follows a member of a class or a range. A hyphen before another, or before the
end of the class, makes no range. -/
def afterMember? (chars : List Char) : Option (List Char) := do
  let (first, rest) ← member? chars
  let isRange := match rest with
    | '-' :: c :: _ => c != ']' && c != '-'
    | _ => false
  if isRange then
    let (last, rest) ← member? (rest.drop 1)
    match first, last with
    | .literal low, .literal high => if low ≤ high then some rest else none
    | _, _ => none
  else if first = .place then none
  else some rest

/-- What follows a class, from behind its start on, at most `fuel` steps on; `depth`
counts the classes around it. -/
def afterMembers? : Nat → Nat → List Char → Option (List Char)
  | 0, _, _ => none
  | _, _, [] => none
  | fuel + 1, depth, '[' :: rest =>
    match afterName? rest with
    | some rest => afterMembers? fuel depth rest
    | none => afterMembers? fuel (depth + 1) (afterStart rest)
  | fuel + 1, depth, ']' :: rest =>
    match depth with
    | 0 => some rest
    | depth + 1 => afterMembers? fuel depth rest
  | fuel + 1, depth, chars =>
    if ["&&".toList, "--".toList, "~~".toList].contains (chars.take 2) then
      afterMembers? fuel depth (chars.drop 2)
    else do afterMembers? fuel depth (← afterMember? chars)

/-- What follows a class, from behind its opening bracket on. -/
def afterClass? (chars : List Char) : Option (List Char) :=
  afterMembers? chars.length 0 (afterStart chars)

/-! ## Groups -/

/-- Whether a character may stand in the name of a group, be it as the first. -/
def isNameChar (first : Bool) (c : Char) : Bool :=
  c == '_' || (isAlphanumeric c && !(first && c.isDigit)) ||
    (!first && (c == '.' || c == '[' || c == ']'))

/-- Whether a text is a name of a group. -/
def isName : List Char → Bool
  | [] => false
  | c :: rest => isNameChar true c && rest.all (isNameChar false)

/-- Whether a text is a list of flags: none comes twice, and a hyphen has flags after it. -/
def areFlags (flags : List Char) : Bool :=
  flags.all ("imsUuxR-".toList.contains ·) && decide flags.Nodup && flags.getLast? != some '-'

/-- How a group opens. -/
inductive Opening where
  /-- A group, with its name if it has one. -/
  | group (name : Option (List Char))
  /-- No group: flags that hold from there on. -/
  | flags
  deriving DecidableEq, Repr

/-- How a group opens that has a name, from behind the sign before the name on. -/
def named? (chars : List Char) : Option (Opening × List Char) :=
  let name := chars.takeWhile (· != '>')
  match chars.dropWhile (· != '>') with
  | _ :: rest => if isName name then some (.group (some name), rest) else none
  | [] => none

/-- How a group opens, from behind its bracket on, and what follows that. -/
def afterOpening? : List Char → Option (Opening × List Char)
  | '?' :: 'P' :: '<' :: rest => named? rest
  | '?' :: '<' :: rest => named? rest
  | '?' :: rest =>
    let isFlag (c : Char) := c != ':' && c != ')'
    let flags := rest.takeWhile isFlag
    match areFlags flags, rest.dropWhile isFlag with
    | true, ':' :: rest => some (.group none, rest)
    | true, ')' :: rest => if flags.isEmpty then none else some (.flags, rest)
    | _, _ => none
  | rest => some (.group none, rest)

/-! ## Expressions -/

/-- A place in an expression. -/
structure Progress where
  /-- Groups that are open. -/
  depth : Nat := 0
  /-- Something stands before this place that can be repeated. -/
  repeatable : Bool := false
  /-- The names of groups so far. -/
  names : List (List Char) := []
  deriving DecidableEq, Repr

/-- The place behind something that can be repeated. -/
def Progress.behind (progress : Progress) : Progress :=
  { progress with repeatable := true }

/-- The place behind the opening of a group. No two groups have one name. -/
def Progress.enter? (progress : Progress) : Opening → Option Progress
  | .flags => some { progress with repeatable := false }
  | .group none => some { progress with depth := progress.depth + 1, repeatable := false }
  | .group (some name) =>
    if progress.names.contains name then none
    else some ⟨progress.depth + 1, false, name :: progress.names⟩

/-- What one element of an expression leads to, and what follows it. -/
def step? (progress : Progress) : List Char → Option (Progress × List Char)
  | [] => none
  | '\\' :: rest => (escape? rest).map fun (_, rest) => (progress.behind, rest)
  | '[' :: rest => (afterClass? rest).map (progress.behind, ·)
  | '(' :: rest => do
    let (opening, rest) ← afterOpening? rest
    return (← progress.enter? opening, rest)
  | ')' :: rest =>
    match progress.depth with
    | 0 => none
    | depth + 1 => some ({ progress with depth, repeatable := true }, rest)
  | '|' :: rest => some ({ progress with repeatable := false }, rest)
  | c :: rest =>
    if c == '\x7b' || (['*', '+', '?'].contains c && !progress.repeatable) then none
    else some (progress.behind, rest)

/-- Whether a text is the rest of an expression, at most `fuel` steps on. -/
def completes : Nat → Progress → List Char → Bool
  | _, progress, [] => progress.depth == 0
  | 0, _, _ => false
  | fuel + 1, progress, chars =>
    match step? progress chars with
    | some (progress, rest) => completes fuel progress rest
    | none => false

/-- Whether a text is an expression. -/
def isValid (chars : List Char) : Bool :=
  completes chars.length {} chars

end GitGateway.Log.Expression
