import GitGateway.Log.Filter

/-!
# Log entries

A record together with the part of the program that it comes from and the span
that it happened in, and the line that it becomes.

- `Entry.line` — level, span, part, message and fields;
- `Entry.kept` — whether a filter keeps an entry.
-/

namespace GitGateway.Log

/-- A record of a part of the program. -/
structure Entry where
  part : String
  record : Record
  /-- The span that the record happened in. -/
  inside : Option Record := none
  deriving DecidableEq, Repr

/-- Fields as they stand in a line. -/
def fieldTexts (fields : List (String × String)) : List String :=
  fields.map fun (name, value) => name ++ "=" ++ value

/-- A span as it stands in a line. -/
def spanText (span : Record) : String :=
  span.message ++ "\x7b" ++ " ".intercalate (fieldTexts span.fields) ++ "\x7d: "

namespace Entry

/-- An entry as a line. -/
def line (entry : Entry) : String :=
  entry.record.level.label ++ " " ++ (entry.inside.map spanText).getD "" ++ entry.part ++ ": " ++
    " ".intercalate (entry.record.message :: fieldTexts entry.record.fields)

/-- Whether a filter keeps an entry. -/
def kept (filter : Filter) (entry : Entry) : Bool :=
  filter.keeps entry.part entry.record ||
    entry.inside.any fun span => filter.keepsInside entry.part span entry.record

end Entry

/-- The lines of the entries that a filter keeps. -/
def Filter.lines (filter : Filter) (entries : List Entry) : List String :=
  (entries.filter fun entry => entry.kept filter).map Entry.line

end GitGateway.Log
