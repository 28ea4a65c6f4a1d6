import GitGateway.Log.Expression

/-!
# Patterns of values

A field in a log directive may be given a value: a number, or else a regular
expression. Here is only told which texts are values at all.

- `Pattern.isNumber` — a whole number or a decimal, infinity and not-a-number included;
- `Pattern.isValue` — a number or an expression.
-/

namespace GitGateway.Log.Pattern

/-- What follows a sign, if there is one. -/
def afterSign : List Char → List Char
  | '+' :: rest => rest
  | '-' :: rest => rest
  | chars => chars

/-- Whether a text is an exponent or nothing. -/
def isExponent : List Char → Bool
  | [] => true
  | c :: rest =>
    (c == 'e' || c == 'E') && !(afterSign rest).isEmpty && (afterSign rest).all Char.isDigit

/-- Whether a text is a number: digits with a point among or around them, and an
exponent; or one of the words for infinity and for no number. -/
def isNumber (chars : List Char) : Bool :=
  let body := afterSign chars
  let whole := body.takeWhile Char.isDigit
  let (part, rest) := match body.dropWhile Char.isDigit with
    | '.' :: rest => (rest.takeWhile Char.isDigit, rest.dropWhile Char.isDigit)
    | rest => ([], rest)
  (!(whole.isEmpty && part.isEmpty) && isExponent rest) ||
    ["inf", "infinity", "nan"].contains (String.ofList body).toLower

/-- Whether a text is a value. -/
def isValue (text : String) : Bool :=
  isNumber text.toList || Expression.isValid text.toList

end GitGateway.Log.Pattern
