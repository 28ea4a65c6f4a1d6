import GitGateway.Text.Hex
import GitGateway.Toml.Space

/-!
# TOML strings

The four forms of a string: basic and literal, on one line or on several. Each
reader starts behind the opening quotes.

A string on several lines may hold one or two of its own quotes in a row, at the
end too: of a run of three or more the last three close it, and no more than two
belong to the text.

Where a reader takes fuel, each of its steps takes at least one character, so the
length of the document is enough.
-/

namespace GitGateway.Toml.Text

/-- The value of a hexadecimal digit of either case. -/
def hexValue? (c : Char) : Option Nat :=
  if c.toNat < 128 then Hex.value? (UInt8.ofNat c.toNat) else none

/-- The character with the code point that the first `count` characters spell. -/
def codePoint? (count : Nat) (text : Rest) : Option (Char × Rest) := do
  let digits ← (text.take count).mapM hexValue?
  let code := digits.foldl (fun value digit => value * 16 + digit) 0
  if digits.length = count ∧ code.isValidChar then
    return (Char.ofNat code, text.drop count)
  else
    none

/-- The escape behind a backslash. -/
def escape? : Rest → Option (Char × Rest)
  | 'b' :: rest => some ('\x08', rest)
  | 'f' :: rest => some ('\x0C', rest)
  | 'n' :: rest => some ('\n', rest)
  | 'r' :: rest => some ('\r', rest)
  | 't' :: rest => some ('\t', rest)
  | '"' :: rest => some ('"', rest)
  | '\\' :: rest => some ('\\', rest)
  | 'u' :: rest => codePoint? 4 rest
  | 'U' :: rest => codePoint? 8 rest
  | _ => none

/-- Whether a character stands for itself in a basic string. -/
def isBasic (c : Char) : Bool :=
  isText c && c != '"' && c != '\\'

/-- Whether a character stands for itself in a literal string. -/
def isLiteral (c : Char) : Bool :=
  isText c && c != '\''

/-- A basic string on one line; `seen` has what was read, last first. -/
def basicAfter : Nat → List Char → Rest → Option (String × Rest)
  | 0, _, _ => none
  | fuel + 1, seen, text =>
    let seen := (text.takeWhile isBasic).reverse ++ seen
    match text.dropWhile isBasic with
    | '"' :: rest => some (String.ofList seen.reverse, rest)
    | '\\' :: rest =>
      match escape? rest with
      | some (c, rest) => basicAfter fuel (c :: seen) rest
      | none => none
    | _ => none

/-- A basic string on one line. -/
def basic? (fuel : Nat) (text : Rest) : Option (String × Rest) :=
  basicAfter fuel [] text

/-- A literal string on one line. -/
def literal? (text : Rest) : Option (String × Rest) :=
  match text.dropWhile isLiteral with
  | '\'' :: rest => some (String.ofList (text.takeWhile isLiteral), rest)
  | _ => none

/-- How many quotes of a run belong to the text, and whether the run closes it. -/
def quotesKept (run : Nat) : Nat × Bool :=
  if run < 3 then (run, false) else (min 2 (run - 3), true)

/-- Skips blanks and line ends. -/
def foldLines : Nat → Rest → Rest
  | 0, text => text
  | fuel + 1, text =>
    match newline? (skipSpace text) with
    | some rest => foldLines fuel rest
    | none => skipSpace text

/-- A backslash at the end of a line: skips to the next character that is no
blank and no line end. -/
def skipFold? (fuel : Nat) (text : Rest) : Option Rest :=
  (newline? (skipSpace text)).map (foldLines fuel)

/-- A string on several lines with the given quote; escapes are read in a basic
one. `seen` has what was read, last first. -/
def linesAfter (quote : Char) (escapes : Bool) : Nat → List Char → Rest → Option (String × Rest)
  | 0, _, _ => none
  | fuel + 1, seen, text =>
    let stands c := isText c && c != quote && !(escapes && c == '\\')
    let seen := (text.takeWhile stands).reverse ++ seen
    match text.dropWhile stands with
    | [] => none
    | c :: rest =>
      if c = quote then
        let run := ((c :: rest).takeWhile (· == quote)).length
        let (kept, closed) := quotesKept run
        let seen := List.replicate kept quote ++ seen
        if closed then
          some (String.ofList seen.reverse, (c :: rest).drop (kept + 3))
        else
          linesAfter quote escapes fuel seen ((c :: rest).drop kept)
      else if escapes && c == '\\' then
        match skipFold? fuel rest with
        | some rest => linesAfter quote escapes fuel seen rest
        | none =>
          match escape? rest with
          | some (d, rest) => linesAfter quote escapes fuel (d :: seen) rest
          | none => none
      else
        match newline? (c :: rest) with
        | some rest => linesAfter quote escapes fuel ('\n' :: seen) rest
        | none => none

/-- A string on several lines. A line end right behind the quotes is dropped. -/
def lines? (quote : Char) (escapes : Bool) (fuel : Nat) (text : Rest) : Option (String × Rest) :=
  linesAfter quote escapes fuel [] ((newline? text).getD text)

/-- Any string, from its opening quotes on. -/
def read? (fuel : Nat) : Rest → Option (String × Rest)
  | '"' :: '"' :: '"' :: rest => lines? '"' true fuel rest
  | '"' :: rest => basic? fuel rest
  | '\'' :: '\'' :: '\'' :: rest => lines? '\'' false fuel rest
  | '\'' :: rest => literal? rest
  | _ => none

end GitGateway.Toml.Text
