/-!
# TOML trees

What a document says: keys with values and tables. A table remembers how it came
to be, which decides what may still be added to it.
-/

namespace GitGateway.Toml

/-- How a table came to be. -/
inductive Origin where
  /-- By a header of its own; the root counts as one. -/
  | header
  /-- As a step on the path of a header. -/
  | implied
  /-- As a step on the path of a dotted key. -/
  | dotted
  /-- Between braces, as a value. -/
  | inline
  deriving DecidableEq, Repr

/-- A value or a table. Of floats and of dates only the presence is kept. -/
inductive Item where
  | string (value : String)
  | integer (value : Int)
  | boolean (value : Bool)
  | float
  | dateTime
  | array (items : List Item)
  /-- A table, latest entry first. -/
  | table (origin : Origin) (entries : List (String × Item))
  /-- The tables under repeated headers, the latest one apart. -/
  | tables (latest : List (String × Item)) (earlier : List (List (String × Item)))
  deriving Repr

/-- The entries of a table, latest first. -/
abbrev Entries := List (String × Item)

namespace Entries

/-- The item under a key. -/
def get? (entries : Entries) (key : String) : Option Item :=
  (entries.find? fun entry => entry.1 == key).map Prod.snd

/-- The entries with one more. -/
def add (entries : Entries) (key : String) (item : Item) : Entries :=
  (key, item) :: entries

/-- The entries without a key. -/
def remove (entries : Entries) (key : String) : Entries :=
  entries.filter fun entry => entry.1 != key

end Entries

end GitGateway.Toml
