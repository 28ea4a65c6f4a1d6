import GitGateway.Log.Directive

/-!
# Log filters

A filter is a list of directives, written with commas between them. Of those that
speak of a record the most special one decides on it, and of several that are as
special the last one; where none does, nothing is kept.

- `Filter.ofText?` — a filter whose directives must all be well written;
- `Filter.ofTextLoosely` — a filter that drops those which are not, and keeps errors
  if none is left;
- `Filter.threshold` — the level that is kept of a part of the program;
- `Filter.install` — the filter of a run: the one in the environment, else that of
  the settings.
-/

namespace GitGateway.Log

/-- A list of directives. -/
structure Filter where
  directives : List Directive
  deriving DecidableEq, Repr

namespace Filter

/-- The parts between commas, empty ones left out. -/
def parts (text : String) : List String :=
  ((text.toList.splitOn ',').map String.ofList).filter fun part => !part.isEmpty

/-- The filter that a text spells, if all of it is well written. -/
def ofText? (text : String) : Option Filter :=
  ((parts text).mapM Directive.ofString?).map Filter.mk

/-- The filter of the directives in a text that are well written. -/
def ofTextLoosely (text : String) : Filter :=
  let directives := (parts text).filterMap Directive.ofString?
  if directives.isEmpty then ⟨[{ threshold := some .error }]⟩ else ⟨directives⟩

/-- The directive that decides on a record of a part with the given fields. -/
def deciding? (filter : Filter) (part : String) (fields : Option (List String)) :
    Option Directive :=
  (filter.directives.filter fun directive => directive.decides part fields).foldl
    (fun best directive =>
      match best with
      | none => some directive
      | some other => if other.outranks directive then some other else some directive)
    none

/-- The level up to which records of a part are kept, fields left aside. -/
def threshold (filter : Filter) (part : String) : Threshold :=
  (filter.deciding? part none).bind Directive.threshold

/-- Whether a record of a part is kept. -/
def keeps (filter : Filter) (part : String) (record : Record) : Bool :=
  match (filter.deciding? part (some record.fieldNames)).bind Directive.threshold with
  | none => false
  | some least => least.rank ≤ record.level.rank

/-! ## Spans -/

/-- Whether a directive speaks of what happens in a span of a part. Values are not
looked at: a directive that asks for one speaks of no span. -/
def opens (directive : Directive) (part : String) (span : Record) : Bool :=
  !(directive.span.isNone && directive.field.isNone) && directive.covers part &&
    directive.span.all (· == span.message) &&
    directive.field.all fun field =>
      field.value.isNone && (span.fields.map Prod.fst).contains field.name

/-- Whether a record is kept because it happens in a span. -/
def keepsInside (filter : Filter) (part : String) (span record : Record) : Bool :=
  filter.directives.any fun directive =>
    opens directive part span &&
      directive.threshold.any fun least => least.rank ≤ record.level.rank

/-! ## The filter of a run -/

/-- The target of the gateway's own records. -/
def ownTarget : String := "git_overload_proxy"

/-- The directives that a level in the settings stands for: the gateway's own
records and those of its HTTP layer. -/
def defaultText (level : String) : String :=
  ownTarget ++ "=" ++ level.toLower ++ ",tower_http=" ++ level.toLower

/-- The filter of a run. One from the environment counts if it is well written. -/
def install (environment : Option String) (level : String) : Filter :=
  (environment.bind ofText?).getD (ofTextLoosely (defaultText level))

end Filter

end GitGateway.Log
