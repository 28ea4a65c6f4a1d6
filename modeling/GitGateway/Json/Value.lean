import GitGateway.Json.Node

/-!
# JSON values

A value is what a node means to a reader that looks at all of it: its strings are
text, its keys too, its numbers have a place among the doubles, and it nests no
deeper than the reader goes.

- `Value.ofNode?` — the value of a node that nests at most `room` containers;
- `Value.get?` — a member of an object; of several with one key the last counts.
-/

namespace GitGateway.Json

/-- What a node means. Of a number only the part that answers need is kept. -/
inductive Value where
  | null
  | boolean (value : Bool)
  /-- A number; `natural` is its value if it is written as a natural number of at
  most 64 bits. -/
  | number (natural : Option Nat)
  | string (text : String)
  | array (items : List Value)
  | object (members : List (String × Value))

namespace Value

/-- The value of a node in which at most `room` containers lie inside one another. -/
def ofNode? : Nat → Node → Option Value
  | _, .null => some .null
  | _, .boolean value => some (.boolean value)
  | _, .number numeral => if numeral.isFinite then some (.number numeral.natural?) else none
  | _, .string body => (Text.decode? body).map .string
  | 0, .array _ => none
  | 0, .object _ => none
  | room + 1, .array items => (items.mapM (ofNode? room)).map .array
  | room + 1, .object members =>
    (members.mapM fun (key, node) => do
      let key ← Text.decode? key
      let value ← ofNode? room node
      return (key, value)).map .object

/-- The last member with the given key. -/
def get? (value : Value) (key : String) : Option Value :=
  match value with
  | .object members => (members.reverse.find? fun member => member.1 == key).map Prod.snd
  | _ => none

/-- The text of a string. -/
def text? : Value → Option String
  | .string text => some text
  | _ => none

/-- The number of a value that is written as a natural number. -/
def natural? : Value → Option Nat
  | .number natural => natural
  | _ => none

end Value

end GitGateway.Json
