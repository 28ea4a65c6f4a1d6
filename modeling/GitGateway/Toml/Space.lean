/-!
# Space in TOML documents

Every reader of this folder takes the characters of a document and answers with
what it read and what is left, or with `none` where the document is malformed.
Here are the parts that mean nothing: blanks, line ends and comments.
-/

namespace GitGateway.Toml

/-- What is left of a document. -/
abbrev Rest := List Char

/-- Space and tab. -/
def isSpace (c : Char) : Bool :=
  c == ' ' || c == '\t'

/-- Whether a character may stand in a comment or a string: a tab, or anything but
a control character. -/
def isText (c : Char) : Bool :=
  c == '\t' || (0x20 ≤ c.toNat && c.toNat != 0x7F)

/-- Skips blanks within a line. -/
def skipSpace (text : Rest) : Rest :=
  text.dropWhile isSpace

/-- A line end: a line feed, with a carriage return before it or not. -/
def newline? : Rest → Option Rest
  | '\n' :: rest => some rest
  | '\r' :: '\n' :: rest => some rest
  | _ => none

/-- Skips a comment, if one starts here. -/
def skipComment : Rest → Rest
  | '#' :: rest => rest.dropWhile isText
  | text => text

/-- The end of the document or of a line. -/
def lineEnd? : Rest → Option Rest
  | [] => some []
  | text => newline? text

/-- What may follow an expression on its line: blanks and a comment. -/
def lineRest? (text : Rest) : Option Rest :=
  lineEnd? (skipComment (skipSpace text))

/-- Skips blanks, line ends and whole comment lines, at most `fuel` of them. -/
def skipLines : Nat → Rest → Option Rest
  | 0, text => some text
  | fuel + 1, text =>
    match skipSpace text with
    | '#' :: rest => (newline? (rest.dropWhile isText)).bind (skipLines fuel)
    | '\n' :: rest => skipLines fuel rest
    | '\r' :: rest => (newline? ('\r' :: rest)).bind (skipLines fuel)
    | text => some text

/-- A given character. -/
def char? (c : Char) : Rest → Option Rest
  | d :: rest => if d == c then some rest else none
  | [] => none

end GitGateway.Toml
