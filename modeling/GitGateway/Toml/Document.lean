import GitGateway.Toml.Item

/-!
# From statements to a tree

A document is a list of statements: assignments and table headers. Each one
changes the tree so far, or contradicts it.

- `Entries.alter?` — applies a change to the table at the end of a path;
- `Entries.assign?` — an assignment, which may make dotted tables on its way;
- `Document.step?` — one statement;
- `Document.build?` — the tree of a list of statements.

The rules: no key is set twice; a table has one header; a dotted key only adds to
tables that dotted keys of the same table made, and reaches no value; a header may
pass through any table but one that is a value, and enters a list of tables at its
latest.
-/

namespace GitGateway.Toml

/-- A line of a document that says something. -/
inductive Statement where
  /-- `path.key = value` in the current table. -/
  | assign (path : List String) (key : String) (value : Item)
  /-- The header of a table. -/
  | table (path : List String) (name : String)
  /-- The header of one more table of a list. -/
  | element (path : List String) (name : String)

/-- What walks a path: a dotted key or a header. -/
inductive Walker where
  | key
  | header
  deriving DecidableEq, Repr

namespace Walker

/-- What a walker makes of a step that is not there yet. -/
def origin : Walker → Origin
  | .key => .dotted
  | .header => .implied

/-- Whether a walker may pass through a table. -/
def mayPass : Walker → Origin → Bool
  | _, .inline => false
  | .key, .header => false
  | _, _ => true

end Walker

namespace Entries

/-- Applies `change` to the table at the end of `path`, given its origin and its
entries. Tables that are missing on the way are made, and a list of tables is
entered at its latest. -/
def alter? (walker : Walker) (change : Origin → Entries → Option Entries) :
    List String → Origin → Entries → Option Entries
  | [], origin, entries => change origin entries
  | key :: path, _, entries =>
    match entries.get? key with
    | none => do
      let inner ← alter? walker change path walker.origin []
      return entries.add key (.table walker.origin inner)
    | some (.table origin inner) =>
      if walker.mayPass origin then do
        let inner ← alter? walker change path origin inner
        return (entries.remove key).add key (.table origin inner)
      else none
    | some (.tables latest earlier) => do
      let latest ← alter? walker change path .header latest
      return (entries.remove key).add key (.tables latest earlier)
    | some _ => none

/-- Adds an entry under a key that is not set. -/
def addNew? (key : String) (item : Item) (entries : Entries) : Option Entries :=
  match entries.get? key with
  | none => some (entries.add key item)
  | some _ => none

/-- Sets a key at the end of a dotted path. The table that a path leads to must
itself be dotted. -/
def assign? (path : List String) (key : String) (value : Item) (entries : Entries) :
    Option Entries :=
  let add origin inner := if path.isEmpty || origin = Origin.dotted then
    addNew? key value inner else none
  alter? .key add path .header entries

/-- Gives a table its header: it is not there, or only implied. -/
def openTable? (name : String) (entries : Entries) : Option Entries :=
  match entries.get? name with
  | none => some (entries.add name (.table .header []))
  | some (.table .implied inner) => some ((entries.remove name).add name (.table .header inner))
  | some _ => none

/-- Adds one more table to a list, or starts the list. -/
def openElement? (name : String) (entries : Entries) : Option Entries :=
  match entries.get? name with
  | none => some (entries.add name (.tables [] []))
  | some (.tables latest earlier) =>
    some ((entries.remove name).add name (.tables [] (latest :: earlier)))
  | some _ => none

/-- The entries of a table between braces. -/
def ofPairs? (pairs : List ((List String × String) × Item)) : Option Entries :=
  pairs.foldlM (fun entries ((path, key), value) => assign? path key value entries) []

end Entries

/-- A half-built tree, and the path to the current table. -/
structure Document where
  root : Entries
  current : List String

namespace Document

/-- Nothing is said yet. -/
def empty : Document := ⟨[], []⟩

/-- One more statement. -/
def step? (document : Document) : Statement → Option Document
  | .assign path key value => do
    let assign _ inner := Entries.assign? path key value inner
    let root ← Entries.alter? .header assign document.current .header document.root
    return ⟨root, document.current⟩
  | .table path name => do
    let openTable _ inner := Entries.openTable? name inner
    let root ← Entries.alter? .header openTable path .header document.root
    return ⟨root, path ++ [name]⟩
  | .element path name => do
    let openElement _ inner := Entries.openElement? name inner
    let root ← Entries.alter? .header openElement path .header document.root
    return ⟨root, path ++ [name]⟩

/-- The tree of a list of statements. -/
def build? (statements : List Statement) : Option Entries :=
  (statements.foldlM step? empty).map Document.root

end Document

end GitGateway.Toml
