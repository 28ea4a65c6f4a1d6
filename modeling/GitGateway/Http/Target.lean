import GitGateway.Http.Authority

/-!
# Request targets

What a request is for: a path with a query, or `*`, with a scheme and an authority
in front of it or not, or an authority alone.

- `Target.ofString?` — the target that a text spells;
- `Target.text` — a target as text;
- `Target.path` — the path, which is empty only for an authority alone;
- `Target.ofParts?` — a target from its parts, as long as they go together;
- `Target.originForm` — the path and query alone, as they stand in a request line.
-/

namespace GitGateway.Http

/-- A request target. The path and query are kept as one text; an absolute target
may have an empty one. -/
structure Target where
  scheme : Option String
  authority : Option String
  pathQuery : Option String
  deriving DecidableEq, Repr

namespace Target

/-- The text before a character. -/
def before (c : Char) (text : String) : String :=
  String.ofList (text.toList.takeWhile (· != c))

/-- The text after the first such character, if there is one. -/
def after? (c : Char) (text : String) : Option String :=
  match text.toList.dropWhile (· != c) with
  | [] => none
  | _ :: rest => some (String.ofList rest)

/-- The path in front of a query; an empty one counts as `/`. -/
def pathOf (pathQuery : String) : String :=
  let path := before '?' pathQuery
  if path.isEmpty then "/" else path

/-- A path and query in full. -/
def pathQueryText (pathQuery : String) : String :=
  pathOf pathQuery ++ match after? '?' pathQuery with
    | none => ""
    | some query => "?" ++ query

/-- The path. -/
def path (target : Target) : String :=
  match target.pathQuery with
  | none => ""
  | some pathQuery => pathOf pathQuery

/-- A target as text. -/
def text (target : Target) : String :=
  (match target.scheme with
    | none => ""
    | some scheme => scheme ++ "://") ++
  target.authority.getD "" ++
  (match target.pathQuery with
    | none => ""
    | some pathQuery => pathQueryText pathQuery)

/-- A target from its parts: a scheme needs the two others, and without one either
an authority or a path stands alone. -/
def ofParts? (scheme authority pathQuery : Option String) : Option Target :=
  match scheme, authority, pathQuery with
  | some _, some _, some _ => some ⟨scheme, authority, pathQuery⟩
  | some _, _, _ => none
  | none, some _, some _ => none
  | none, none, none => none
  | none, _, _ => some ⟨none, authority, pathQuery⟩

/-- The same target on a given authority; a missing path becomes `/`. -/
def addressed? (target : Target) (authority : String) : Option Target :=
  ofParts? (some "http") (some authority) (some (target.pathQuery.getD "/"))

/-- The target as a request line has it when the connection tells the rest. -/
def originForm (target : Target) : String :=
  match target.pathQuery with
  | none => "/"
  | some pathQuery => pathQueryText pathQuery

/-! ## Reading -/

/-- Whether a character may stand in the name of a scheme. -/
def isSchemeChar (c : Char) : Bool :=
  c.isAlphanum || c == '+' || c == '-' || c == '.'

/-- The longest name of a scheme. -/
def maxScheme : Nat := 64

/-- The name of a scheme in front of `://`, and what follows. -/
def splitScheme? (chars : List Char) : Option (List Char × List Char) :=
  match chars.dropWhile isSchemeChar with
  | ':' :: '/' :: '/' :: rest => some (chars.takeWhile isSchemeChar, rest)
  | _ => none

/-- The name of a scheme as it is kept: the two well-known ones in lower case. -/
def schemeName (chars : List Char) : String :=
  let lower := (String.ofList chars).toLower
  if lower == "http" || lower == "https" then lower else String.ofList chars

/-- A text up to a fragment, which is no part of a target. -/
def withoutFragment (chars : List Char) : String :=
  String.ofList (chars.takeWhile (· != '#'))

/-- The target of a scheme, an authority and what follows. -/
def absolute? (scheme rest : List Char) : Option Target :=
  match Authority.scan {} rest with
  | .error _ => none
  | .ok after =>
    let authority := rest.take (rest.length - after.length)
    if maxScheme < scheme.length || authority.isEmpty then none
    else some ⟨some (schemeName scheme), some (String.ofList authority),
      some (withoutFragment after)⟩

/-- The target that a text spells. -/
def ofString? (text : String) : Option Target :=
  match text.toList with
  | ['*'] => some ⟨none, none, some "*"⟩
  | '/' :: rest => some ⟨none, none, some (withoutFragment ('/' :: rest))⟩
  | chars =>
    match splitScheme? chars with
    | some (scheme, rest) => absolute? scheme rest
    | none =>
      match Authority.check text with
      | .ok () => some ⟨none, some text, none⟩
      | .error _ => none

end Target

end GitGateway.Http
