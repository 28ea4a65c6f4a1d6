import GitGateway.Json.Token

/-!
# JSON syntax trees

A node is a JSON value as it was written: strings and numbers are not read yet,
and members of an object keep their order and their repetitions. Any text that
follows the grammar has a node, however deep it nests.

- `Builder` — a half-read text: the containers that are open, and what may come next;
- `Builder.step` — one more token;
- `Node.ofTokens?` — the node of a whole token list;
- `Node.read?` — the node of a text.

The open containers are a list of their own, so depth costs no recursion.
-/

namespace GitGateway.Json

/-- A JSON value as it was written. -/
inductive Node where
  | null
  | boolean (value : Bool)
  | number (numeral : Numeral)
  | string (body : Text)
  | array (items : List Node)
  | object (members : List (Text × Node))

/-- A container that is open, with what it holds so far, last first. -/
inductive Open where
  | array (items : List Node)
  /-- The value of `key` is being read. -/
  | object (members : List (Text × Node)) (key : Text)

/-- What may come next. -/
inductive Phase where
  /-- A value. -/
  | value
  /-- A value, or the end of the array that was just opened. -/
  | firstItem
  /-- A key, or the end of the object that was just opened. -/
  | firstKey
  /-- A key, after a comma. -/
  | key (members : List (Text × Node))
  /-- The colon after a key. -/
  | colon (members : List (Text × Node)) (key : Text)
  /-- A value has ended: what may follow depends on the innermost open container. -/
  | ended (node : Node)

/-- A half-read text. -/
structure Builder where
  stack : List Open
  phase : Phase

namespace Builder

/-- Nothing is read yet. -/
def start : Builder := ⟨[], .value⟩

/-- The first token of a value. -/
def beginValue (stack : List Open) : Token → Option Builder
  | .null => some ⟨stack, .ended .null⟩
  | .boolean value => some ⟨stack, .ended (.boolean value)⟩
  | .number numeral => some ⟨stack, .ended (.number numeral)⟩
  | .string body => some ⟨stack, .ended (.string body)⟩
  | .openArray => some ⟨.array [] :: stack, .firstItem⟩
  | .openObject => some ⟨stack, .firstKey⟩
  | _ => none

/-- The token after a value. -/
def afterValue (node : Node) : List Open → Token → Option Builder
  | .array items :: stack, .comma => some ⟨.array (node :: items) :: stack, .value⟩
  | .array items :: stack, .closeArray => some ⟨stack, .ended (.array (node :: items).reverse)⟩
  | .object members key :: stack, .comma => some ⟨stack, .key ((key, node) :: members)⟩
  | .object members key :: stack, .closeObject =>
    some ⟨stack, .ended (.object ((key, node) :: members).reverse)⟩
  | _, _ => none

/-- One more token. -/
def step (builder : Builder) (token : Token) : Option Builder :=
  match builder.phase with
  | .value => beginValue builder.stack token
  | .firstItem =>
    match builder.stack, token with
    | .array _ :: stack, .closeArray => some ⟨stack, .ended (.array [])⟩
    | stack, token => beginValue stack token
  | .firstKey =>
    match token with
    | .closeObject => some ⟨builder.stack, .ended (.object [])⟩
    | .string key => some ⟨builder.stack, .colon [] key⟩
    | _ => none
  | .key members =>
    match token with
    | .string key => some ⟨builder.stack, .colon members key⟩
    | _ => none
  | .colon members key =>
    match token with
    | .colon => some ⟨.object members key :: builder.stack, .value⟩
    | _ => none
  | .ended node => afterValue node builder.stack token

/-- The node, if the text may end here. -/
def finish? (builder : Builder) : Option Node :=
  match builder with
  | ⟨[], .ended node⟩ => some node
  | _ => none

end Builder

namespace Node

/-- The node that a list of tokens spells. -/
def ofTokens? (tokens : List Token) : Option Node :=
  (tokens.foldlM Builder.step Builder.start).bind Builder.finish?

/-- The node of a text that follows the grammar. -/
def read? (input : Bytes) : Option Node :=
  (Token.scan input).bind ofTokens?

end Node

end GitGateway.Json
