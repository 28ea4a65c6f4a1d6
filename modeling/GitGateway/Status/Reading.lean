import GitGateway.Json.Value
import GitGateway.Status.Basic
import GitGateway.Text.Blank

/-!
# Reading a status

The backend sends a status as JSON, an object with the members `code`, `message`
and `details` or an array of the three in that order.

- `Code.ofNode?`, `Detail.ofNode?`, `Status.ofNode?` — the parts of a status and the
  status itself, from syntax trees;
- `Status.read?` — a status from the octets of an answer;
- `Status.ofAnswer` — the status of any answer: the one it spells, else one made of
  the HTTP status and the text.

Values of other members are part of the syntax tree, and nothing else is asked of
them: they may be out of range, undecodable, and as deep as they like.
-/

namespace GitGateway

open Json (Node Value)

/-- A code is a string, or an object with the code as its only key and the value
null. -/
def Code.ofNode? : Node → Option Code
  | .string body => (Json.Text.decode? body).map Code.ofName
  | .object [(key, .null)] => (Json.Text.decode? key).map Code.ofName
  | _ => none

namespace Detail

/-- The type of the detail that tells of a reached limit. -/
def limitType : String := "type.googleapis.com/gitaly.LimitError"

/-- A detail is told by its type alone; members that are missing or of another
kind read as empty. -/
def ofValue (value : Value) : Detail :=
  if (value.get? "@type").bind Value.text? = some limitType then
    .limitReached (((value.get? "error_message").bind Value.text?).getD "")
      (((value.get? "retry_after_secs").bind Value.natural?).getD 0)
  else
    .other

end Detail

namespace Status

/-- How deep the containers of a status may nest, its own included. -/
def maxDepth : Nat := 127

/-- The text of a string node. -/
def messageOf? : Node → Option String
  | .string body => Json.Text.decode? body
  | _ => none

/-- Details stand two containers deep. -/
def detailsOf? : Node → Option (List Detail)
  | .null => some []
  | .array items => items.mapM fun item => (Value.ofNode? (maxDepth - 2) item).map Detail.ofValue
  | _ => none

/-- A status from its parts, of which only the code must be there. -/
def ofParts? (code message details : Option Node) : Option Status := do
  let code ← code.bind Code.ofNode?
  let message ← match message with
    | none => some ""
    | some node => messageOf? node
  let details ← match details with
    | none => some []
    | some node => detailsOf? node
  return ⟨code, message, details⟩

/-- The members with the given key. -/
def valuesOf (members : List (String × Node)) (key : String) : List Node :=
  (members.filter fun member => member.1 == key).map Prod.snd

/-- The value of a key that may stand there once: `none` if it is repeated. -/
def atMostOne? (members : List (String × Node)) (key : String) : Option (Option Node) :=
  match valuesOf members key with
  | [] => some none
  | [node] => some (some node)
  | _ => none

/-- The status of a syntax tree. Every key is read, known or not, and none of the
three known ones may be repeated. -/
def ofNode? : Node → Option Status
  | .object members => do
    let members ← members.mapM fun (key, node) => (Json.Text.decode? key).map (·, node)
    let code ← atMostOne? members "code"
    let message ← atMostOne? members "message"
    let details ← atMostOne? members "details"
    ofParts? code message details
  | .array [code] => ofParts? (some code) none none
  | .array [code, message] => ofParts? (some code) (some message) none
  | .array [code, message, details] => ofParts? (some code) (some message) (some details)
  | _ => none

/-- The status that the octets of an answer spell. -/
def read? (body : Bytes) : Option Status :=
  (Node.read? body).bind ofNode?

/-- The status of an answer that is not a success. -/
def ofAnswer (httpStatus : Nat) (body : Bytes) : Status :=
  match read? body with
  | some status => status
  | none =>
    ⟨Code.ofHttpStatus httpStatus, String.ofList (trimBlank (Utf8.decodeLossy body).toList), []⟩

end Status

end GitGateway
