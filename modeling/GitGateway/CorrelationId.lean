import GitGateway.Text.Hex

/-!
# Correlation IDs

Every request has a correlation ID: the one its client sent, or a fresh one. It
is kept as it came, and only bounded where it is shown to a Git client.

- `CorrelationId.fresh` — an ID made of random bits: a version-4 UUID without hyphens;
- `CorrelationId.isFresh` — whether an ID has that form;
- `CorrelationId.bounded` — an ID of at most 48 characters, or the first 48 with a
  mark that they are not all.
-/

namespace GitGateway.CorrelationId

/-- The most characters that are shown. -/
def maxShown : Nat := 48

/-- The mark on an ID that was cut. -/
def cutMark : String := " (truncated)"

/-- The ID as it is shown. Characters are counted, not octets, so none is ever
cut in two. -/
def bounded (id : String) : String :=
  if (id.toList.drop maxShown).isEmpty then id
  else String.ofList (id.toList.take maxShown) ++ cutMark

/-- The text of an ID that came as octets. -/
def ofOctets (octets : Bytes) : String :=
  Utf8.decodeLossy octets

/-! ## Fresh IDs -/

/-- The lower-case digit of a value below sixteen. -/
def digitChar (value : Nat) : Char :=
  Char.ofNat (Hex.digit value).toNat

/-- The `index`th hexadecimal digit of a fresh ID. Digit 12 is the version and digit
16 starts with the bits of the variant; the others are random. -/
def freshDigit (entropy index : Nat) : Char :=
  let value := entropy / Nat.pow 16 index % 16
  digitChar (if index = 12 then 4 else if index = 16 then 8 + value % 4 else value)

/-- An ID made of the given random bits. -/
def fresh (entropy : Nat) : String :=
  String.ofList ((List.range 32).map (freshDigit entropy))

/-- Whether a character is a lower-case hexadecimal digit. -/
def isDigit (c : Char) : Bool :=
  ('0' ≤ c && c ≤ '9') || ('a' ≤ c && c ≤ 'f')

/-- Whether an ID is a version-4 UUID in lower case without hyphens. -/
def isFresh (id : String) : Bool :=
  let chars := id.toList
  chars.length == 32 && chars.all isDigit && chars[12]? == some '4' &&
    (chars[16]?.any fun c => ['8', '9', 'a', 'b'].contains c)

end GitGateway.CorrelationId
