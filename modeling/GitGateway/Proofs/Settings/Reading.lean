import GitGateway.Proofs.Settings.Checks
import GitGateway.Settings.Load

/-!
# What a document says of the settings

A document whose sections are tables is read through seven keys and nothing else.

- `Settings.Key.given?`: what a document has under a key, `Settings.Key.default`: the value where
  it has nothing there;
- `Settings.Kind.Holds`: an item and the value that it holds, which tells of text, of seconds and
  of switches which items are none;
- `Settings.Key.Takes`: the value that a key takes from a document, `Settings.Key.Fits`: what the
  document has under the key holds a value of its kind, or there is nothing;
- `Settings.ofDocument?_eq_some_iff`: **the settings of a document are those whose values the
  keys take from it**, each its own;
- `Settings.document_is_read`: a document with an item that does not fit is malformed. Of any
  other one there are settings, which are accepted where all checks pass and refused with the
  problems of those that fail. Two documents that agree on the seven keys have the same answer,
  whatever else is in them.

Of sections that are no tables nothing is said: a section may be written as an array, of which
the places are read and not the names.
-/

namespace GitGateway.Settings

open Toml (Item Entries)

/-! ## Items and values -/

/-- An item and the value of a kind that it holds. -/
inductive Kind.Holds : (kind : Kind) → Item → kind.Value → Prop
  | text (value : String) : Holds .text (.string value) value
  | seconds (n : Nat) : Holds .seconds (.integer n) n
  | switch (on : Bool) : Holds .switch (.boolean on) on

/-- An item read as a value of a kind. -/
def Kind.read? : (kind : Kind) → Item → Option kind.Value
  | .text => text?
  | .seconds => seconds?
  | .switch => switch?

/-- An item is read as the value that it holds. -/
theorem Kind.read?_eq_some_iff {kind : Kind} {item : Item} {value : kind.Value} :
    kind.read? item = some value ↔ kind.Holds item value := by
  constructor
  · intro h
    cases kind with
    | text =>
      cases item <;> cases h
      exact .text _
    | seconds =>
      cases item with
      | integer number =>
        cases number with
        | ofNat n =>
          cases h
          exact .seconds _
        | negSucc n => cases h
      | _ => cases h
    | switch =>
      cases item <;> cases h
      exact .switch _
  · intro h
    cases h <;> rfl

/-! ## Sections -/

/-- Each section is missing, or a table. -/
def Sectioned (root : Entries) : Prop :=
  ∀ name ∈ ["listener", "backend", "timeouts", "observability"], ∀ item,
    root.get? name = some item → ∃ origin entries, item = .table origin entries

/-- The entries of a section, none if it is missing. -/
def sectionOf (root : Entries) (name : String) : Entries :=
  match root.get? name with
  | some (.table _ entries) => entries
  | _ => []

/-- The fields of a section are its entries. -/
theorem Fields.ofSection?_of_sectioned {root : Entries} (sectioned : Sectioned root) (name : String)
    (known : name ∈ ["listener", "backend", "timeouts", "observability"]) :
    Fields.ofSection? (root.get? name) = some (.named (sectionOf root name)) := by
  rw [sectionOf]
  cases found : root.get? name with
  | none => rfl
  | some item =>
    obtain ⟨origin, entries, rfl⟩ := sectioned name known item found
    rfl

/-- A document of which every entry is a table has its sections as tables. -/
theorem sectioned_of_tables {root : Entries}
    (tables : ∀ entry ∈ root, ∃ origin entries, entry.2 = .table origin entries) :
    Sectioned root := by
  intro name _ item found
  obtain ⟨entry, first, rfl⟩ := Option.map_eq_some_iff.mp found
  exact tables entry (List.mem_of_find?_eq_some first)

/-! ## Keys -/

namespace Key

/-- The section that a key is in. -/
def table : Key → String
  | .bindAddress => "listener"
  | .backendAddress => "backend"
  | .connectSecs | .requestSecs => "timeouts"
  | .logLevel | .metricsEnabled | .metricsAddress => "observability"

/-- A key as it is written in its section. -/
def name : Key → String
  | .bindAddress => "bind_address"
  | .backendAddress => "address"
  | .connectSecs => "connect_secs"
  | .requestSecs => "request_secs"
  | .logLevel => "log_level"
  | .metricsEnabled => "metrics_enabled"
  | .metricsAddress => "metrics_address"

/-- The value where a document has none. -/
def default : (key : Key) → key.kind.Value
  | .bindAddress => "0.0.0.0:8080"
  | .backendAddress => "127.0.0.1:8075"
  | .connectSecs => (5 : Nat)
  | .requestSecs => (600 : Nat)
  | .logLevel => "info"
  | .metricsEnabled => false
  | .metricsAddress => "0.0.0.0:9090"

/-- What a document has under a key. -/
def given? (root : Entries) (key : Key) : Option Item :=
  (sectionOf root key.table).get? key.name

/-- What a document has under a key is a value for it, or there is nothing. -/
def Fits (root : Entries) (key : Key) : Prop :=
  ∀ item, key.given? root = some item → ∃ value, key.kind.Holds item value

/-- The value that a key takes from a document. -/
inductive Takes (root : Entries) (key : Key) : key.kind.Value → Prop
  | given {item : Item} {value : key.kind.Value} (found : key.given? root = some item)
    (holds : key.kind.Holds item value) : Takes root key value
  | missing (nothing : key.given? root = none) : Takes root key key.default

/-- A key takes what its field is read as, at whatever place that is. -/
theorem takes_iff (root : Entries) (key : Key) (value : key.kind.Value) (place : Nat) :
    (Fields.named (sectionOf root key.table)).read? key.name place key.kind.read? key.default =
      some value ↔ key.Takes root value := by
  have looked : (Fields.named (sectionOf root key.table)).get? key.name place = key.given? root :=
    rfl
  rw [Fields.read?, looked]
  cases found : key.given? root with
  | none =>
    constructor
    · intro h
      cases h
      exact .missing found
    · intro taken
      cases taken with
      | given there => cases found.symm.trans there
      | missing => rfl
  | some item =>
    show key.kind.read? item = some value ↔ _
    rw [Kind.read?_eq_some_iff]
    constructor
    · exact .given found
    · intro taken
      cases taken with
      | given there holds =>
        cases found.symm.trans there
        exact holds
      | missing nothing => cases found.symm.trans nothing

/-- A key takes a value just where the document fits it. -/
theorem exists_takes_iff {root : Entries} {key : Key} :
    (∃ value, key.Takes root value) ↔ key.Fits root := by
  constructor
  · rintro ⟨value, taken⟩ item there
    cases taken with
    | given found holds =>
      cases there.symm.trans found
      exact ⟨value, holds⟩
    | missing nothing => cases there.symm.trans nothing
  · intro fits
    cases found : key.given? root with
    | none => exact ⟨_, .missing found⟩
    | some item =>
      obtain ⟨value, holds⟩ := fits item found
      exact ⟨value, .given found holds⟩

/-- A key takes one value. -/
theorem Takes.unique {root : Entries} {key : Key} {value other : key.kind.Value}
    (taken : key.Takes root value) (taken' : key.Takes root other) : value = other :=
  Option.some.inj (((takes_iff root key value 0).mpr taken).symm.trans
    ((takes_iff root key other 0).mpr taken'))

/-- A key takes the same from documents that have the same under it. -/
theorem Takes.congr {root other : Entries} {key : Key} {value : key.kind.Value}
    (same : key.given? other = key.given? root) (taken : key.Takes root value) :
    key.Takes other value := by
  cases taken with
  | given found holds => exact .given (same.trans found) holds
  | missing nothing => exact .missing (same.trans nothing)

end Key

/-! ## Settings -/

/-- The settings that have given values. -/
def ofValues (value : (key : Key) → key.kind.Value) : Settings where
  listener := { bindAddress := value .bindAddress }
  backend := { address := value .backendAddress }
  timeouts := { connectSecs := value .connectSecs, requestSecs := value .requestSecs }
  observability := {
    logLevel := value .logLevel
    metricsEnabled := value .metricsEnabled
    metricsAddress := value .metricsAddress }

theorem value_ofValues (value : (key : Key) → key.kind.Value) (key : Key) :
    key.value (ofValues value) = value key := by
  cases key <;> rfl

section

variable {root : Entries}

theorem Listener.ofFields?_eq_some_iff {listener : Listener} :
    Listener.ofFields? (.named (sectionOf root "listener")) = some listener ↔
      Key.bindAddress.Takes root listener.bindAddress := by
  rw [← Key.takes_iff root .bindAddress listener.bindAddress 0]
  show Option.bind _ _ = _ ↔ _
  rw [Option.bind_eq_some_iff]
  constructor
  · rintro ⟨_, bind, made⟩
    cases made
    exact bind
  · intro bind
    exact ⟨_, bind, rfl⟩

theorem Backend.ofFields?_eq_some_iff {backend : Backend} :
    Backend.ofFields? (.named (sectionOf root "backend")) = some backend ↔
      Key.backendAddress.Takes root backend.address := by
  rw [← Key.takes_iff root .backendAddress backend.address 0]
  show Option.bind _ _ = _ ↔ _
  rw [Option.bind_eq_some_iff]
  constructor
  · rintro ⟨_, address, made⟩
    cases made
    exact address
  · intro address
    exact ⟨_, address, rfl⟩

theorem Timeouts.ofFields?_eq_some_iff {timeouts : Timeouts} :
    Timeouts.ofFields? (.named (sectionOf root "timeouts")) = some timeouts ↔
      Key.connectSecs.Takes root timeouts.connectSecs ∧
        Key.requestSecs.Takes root timeouts.requestSecs := by
  rw [← Key.takes_iff root .connectSecs timeouts.connectSecs 0,
    ← Key.takes_iff root .requestSecs timeouts.requestSecs 1]
  show Option.bind _ (fun _ => Option.bind _ _) = _ ↔ _
  simp only [Option.bind_eq_some_iff]
  constructor
  · rintro ⟨_, connect, _, request, made⟩
    cases made
    exact ⟨connect, request⟩
  · rintro ⟨connect, request⟩
    exact ⟨_, connect, _, request, rfl⟩

theorem Observability.ofFields?_eq_some_iff {observability : Observability} :
    Observability.ofFields? (.named (sectionOf root "observability")) = some observability ↔
      Key.logLevel.Takes root observability.logLevel ∧
        Key.metricsEnabled.Takes root observability.metricsEnabled ∧
          Key.metricsAddress.Takes root observability.metricsAddress := by
  rw [← Key.takes_iff root .logLevel observability.logLevel 0,
    ← Key.takes_iff root .metricsEnabled observability.metricsEnabled 1,
    ← Key.takes_iff root .metricsAddress observability.metricsAddress 2]
  show Option.bind _ (fun _ => Option.bind _ (fun _ => Option.bind _ _)) = _ ↔ _
  simp only [Option.bind_eq_some_iff]
  constructor
  · rintro ⟨_, level, _, enabled, _, metrics, made⟩
    cases made
    exact ⟨level, enabled, metrics⟩
  · rintro ⟨level, enabled, metrics⟩
    exact ⟨_, level, _, enabled, _, metrics, rfl⟩

variable (sectioned : Sectioned root)
include sectioned

/-- **The settings of a document** are those whose values the keys take from it. -/
theorem ofDocument?_eq_some_iff {settings : Settings} :
    ofDocument? root = some settings ↔ ∀ key : Key, key.Takes root (key.value settings) := by
  rw [ofDocument?, Fields.ofSection?_of_sectioned sectioned "listener" (by decide),
    Fields.ofSection?_of_sectioned sectioned "backend" (by decide),
    Fields.ofSection?_of_sectioned sectioned "timeouts" (by decide),
    Fields.ofSection?_of_sectioned sectioned "observability" (by decide), Key.forall_iff]
  show Option.bind (Listener.ofFields? _) (fun _ => Option.bind (Backend.ofFields? _)
    (fun _ => Option.bind (Timeouts.ofFields? _)
      (fun _ => Option.bind (Observability.ofFields? _) _))) = _ ↔ _
  simp only [Option.bind_eq_some_iff, Listener.ofFields?_eq_some_iff,
    Backend.ofFields?_eq_some_iff, Timeouts.ofFields?_eq_some_iff,
    Observability.ofFields?_eq_some_iff]
  constructor
  · rintro ⟨_, bind, _, backend, _, ⟨connect, request⟩, _, ⟨level, enabled, metrics⟩, made⟩
    cases made
    exact ⟨bind, backend, connect, request, level, enabled, metrics⟩
  · rintro ⟨bind, backend, connect, request, level, enabled, metrics⟩
    exact ⟨_, bind, _, backend, _, ⟨connect, request⟩, _, ⟨level, enabled, metrics⟩, rfl⟩

/-- There are settings where every key fits. -/
theorem exists_ofDocument?_iff :
    (∃ settings, ofDocument? root = some settings) ↔ ∀ key : Key, key.Fits root := by
  constructor
  · rintro ⟨settings, made⟩ key
    exact Key.exists_takes_iff.mp ⟨_, (ofDocument?_eq_some_iff sectioned).mp made key⟩
  · intro fits
    have taken : ∀ key : Key, ∃ value, key.Takes root value :=
      fun key => Key.exists_takes_iff.mpr (fits key)
    obtain ⟨value, taken⟩ := Classical.axiomOfChoice taken
    refine ⟨ofValues value, (ofDocument?_eq_some_iff sectioned).mpr fun key => ?_⟩
    rw [value_ofValues]
    exact taken key

/-- Documents that have the same under every key are read as the same settings. -/
theorem ofDocument?_congr {other : Entries} (sectioned' : Sectioned other)
    (same : ∀ key : Key, key.given? other = key.given? root) :
    ofDocument? other = ofDocument? root := by
  refine Option.ext fun settings => ?_
  rw [ofDocument?_eq_some_iff sectioned, ofDocument?_eq_some_iff sectioned']
  constructor
  · exact fun taken key => (taken key).congr (same key).symm
  · exact fun taken key => (taken key).congr (same key)

end

/-! ## Answers -/

section

variable {text : String} {root : Entries} (read : Toml.Document.read? text = some root)
include read

/-- A text of which there are no settings is malformed. -/
theorem ofText_of_ofDocument?_eq_none (made : ofDocument? root = none) :
    ofText text = .error .malformed := by
  simp only [ofText, read, Option.bind_some, made]

/-- Settings with problems are refused with all of them. -/
theorem ofText_of_problems {settings : Settings} (made : ofDocument? root = some settings)
    {first : Problem} {rest : List Problem} (told : settings.problems = first :: rest) :
    ofText text = .error (.invalid (first :: rest)) := by
  simp only [ofText, read, Option.bind_some, made, told]

end

theorem intercalate_messages (first : Problem) (rest : List Problem) :
    ", ".intercalate ((first :: rest).map Problem.message) =
      first.message ++ String.join (rest.map fun problem => ", " ++ problem.message) := by
  induction rest generalizing first with
  | nil =>
    simp only [List.map_cons, List.map_nil, String.intercalate_singleton, String.join_nil,
      String.append_empty]
  | cons second rest ih =>
    rw [List.map_cons, List.map_cons, String.intercalate_cons_cons, ← List.map_cons, ih,
      List.map_cons, String.join_cons, String.append_assoc, String.append_assoc]

/-- The problems of a summary are joined by commas. -/
theorem summary_cons (first : Problem) (rest : List Problem) :
    summary (first :: rest) = "Validation failed: " ++ first.message ++
      String.join (rest.map fun problem => ", " ++ problem.message) := by
  unfold summary
  simp only [intercalate_messages, String.append_assoc]

/-- **A document is read through seven keys**, and all checks are made of what they say. -/
theorem document_is_read :
    (∀ text root, Toml.Document.read? text = some root → Sectioned root →
      ((∃ key : Key, ¬ key.Fits root) → ofText text = .error .malformed) ∧
      ((∀ key : Key, key.Fits root) → ∃ settings : Settings,
        (∀ key : Key, key.Takes root (key.value settings)) ∧
        (ofText text = .ok settings ↔ ∀ check : Check, check.Passes settings) ∧
        ((∃ check : Check, ¬ check.Passes settings) → ∃ first rest,
          Check.Reports settings Check.all (first :: rest) ∧
          ofText text = .error (.invalid (first :: rest)) ∧
          summary (first :: rest) = "Validation failed: " ++ first.message ++
            String.join (rest.map fun problem => ", " ++ problem.message))) ∧
      ∀ text' root', Toml.Document.read? text' = some root' → Sectioned root' →
        (∀ key : Key, key.given? root' = key.given? root) → ofText text' = ofText text) ∧
    ∀ (a b : Settings) (key : Key),
      (∀ other : Key, other ≠ key → other.value a = other.value b) →
      ∃ before own own' behind, a.problems = before ++ own ++ behind ∧
        b.problems = before ++ own' ++ behind ∧
        Check.Reports a [key.check] own ∧ Check.Reports b [key.check] own' := by
  refine ⟨fun text root read sectioned => ⟨?_, ?_, ?_⟩, fun a b key => problems_of_one_change⟩
  · rintro ⟨key, misfit⟩
    refine ofText_of_ofDocument?_eq_none read (Option.eq_none_iff_forall_ne_some.mpr ?_)
    intro settings made
    exact misfit ((exists_ofDocument?_iff sectioned).mp ⟨settings, made⟩ key)
  · intro fits
    obtain ⟨settings, made⟩ := (exists_ofDocument?_iff sectioned).mpr fits
    refine ⟨settings, (ofDocument?_eq_some_iff sectioned).mp made, ?_, ?_⟩
    · rw [ofText_eq_ok_iff, problems_eq_nil_iff, read, Option.bind_some, made]
      exact and_iff_right rfl
    · rintro ⟨check, fails⟩
      cases told : settings.problems with
      | nil => exact absurd (problems_eq_nil_iff.mp told check) fails
      | cons first rest =>
        exact ⟨first, rest, told ▸ reports_problems settings, ofText_of_problems read made told,
          summary_cons first rest⟩
  · intro text' root' read' sectioned' same
    rw [ofText, ofText, read, read', Option.bind_some, Option.bind_some,
      ofDocument?_congr sectioned sectioned' same]

/-- A document with a timeout of zero, among keys and tables that mean nothing here. -/
def crowded : Entries := [
  ("extra", .table .header [("log_level", .integer 5)]),
  ("timeouts", .table .header [("retries", .integer (-3)), ("connect_secs", .integer 0)])]

/-- The same timeout alone. -/
def bare : Entries := [("timeouts", .table .inline [("connect_secs", .integer 0)])]

/-- A timeout that is negative. -/
def negative : Entries := [("timeouts", .table .header [("request_secs", .integer (-1))])]

set_option maxRecDepth 10000 in
-- the documents are read by evaluation
theorem crowded_document_is_read :
    Toml.Document.read?
        "[timeouts]\nconnect_secs = 0\nretries = -3\n[extra]\nlog_level = 5\n" = some crowded ∧
      Toml.Document.read? "timeouts = \x7bconnect_secs = 0\x7d" = some bare ∧
      Toml.Document.read? "[timeouts]\nrequest_secs = -1\n" = some negative ∧
      Sectioned crowded ∧ Sectioned bare ∧ Sectioned negative ∧
      (∀ key : Key, key.Fits crowded) ∧ (∀ key : Key, key.given? bare = key.given? crowded) ∧
      ¬ Key.requestSecs.Fits negative ∧
      (∃ first rest,
        ofText "[timeouts]\nconnect_secs = 0\nretries = -3\n[extra]\nlog_level = 5\n" =
          .error (.invalid (first :: rest))) ∧
      ofText "timeouts = \x7bconnect_secs = 0\x7d" =
        ofText "[timeouts]\nconnect_secs = 0\nretries = -3\n[extra]\nlog_level = 5\n" ∧
      ofText "[timeouts]\nrequest_secs = -1\n" = .error .malformed ∧
      ∃ before own own' behind,
        problems { observability := { metricsAddress := "here" } } = before ++ own ++ behind ∧
        problems { observability := { metricsAddress := "here", metricsEnabled := true } } =
          before ++ own' ++ behind ∧
        Check.Reports { observability := { metricsAddress := "here" } } [.metricsAddress] own ∧
        Check.Reports { observability := { metricsAddress := "here", metricsEnabled := true } }
          [.metricsAddress] own' := by
  have read : Toml.Document.read?
      "[timeouts]\nconnect_secs = 0\nretries = -3\n[extra]\nlog_level = 5\n" = some crowded := by
    rfl
  have bareRead : Toml.Document.read? "timeouts = \x7bconnect_secs = 0\x7d" = some bare := by
    rfl
  have negativeRead : Toml.Document.read? "[timeouts]\nrequest_secs = -1\n" = some negative := by
    rfl
  have sectioned : Sectioned crowded := sectioned_of_tables (by simp [crowded])
  have bareSectioned : Sectioned bare := sectioned_of_tables (by simp [bare])
  have negativeSectioned : Sectioned negative := sectioned_of_tables (by simp [negative])
  have fits : ∀ key : Key, key.Fits crowded := by
    intro key
    refine Key.exists_takes_iff.mp ?_
    cases key with
    | connectSecs => exact ⟨_, .given rfl (.seconds 0)⟩
    | _ => exact ⟨_, .missing rfl⟩
  have same : ∀ key : Key, key.given? bare = key.given? crowded := by
    intro key
    cases key <;> rfl
  have misfit : ¬ Key.requestSecs.Fits negative := by
    intro fits
    obtain ⟨value, holds⟩ := fits (.integer (-1)) rfl
    cases Kind.read?_eq_some_iff.mpr holds
  obtain ⟨_, known, alike⟩ := document_is_read.1 _ _ read sectioned
  obtain ⟨settings, taken, _, refused⟩ := known fits
  have zero : settings.timeouts.connectSecs = 0 :=
    (taken .connectSecs).unique (.given rfl (.seconds 0))
  obtain ⟨first, rest, _, answer, _⟩ := refused ⟨.connectTimeout, by
    show ¬ 0 < settings.timeouts.connectSecs
    omega⟩
  exact ⟨read, bareRead, negativeRead, sectioned, bareSectioned, negativeSectioned, fits, same,
    misfit, ⟨first, rest, answer⟩, alike _ _ bareRead bareSectioned same,
    (document_is_read.1 _ _ negativeRead negativeSectioned).1 ⟨.requestSecs, misfit⟩,
    document_is_read.2 _ _ .metricsEnabled fun other ne => by
      cases other with
      | metricsEnabled => exact absurd rfl ne
      | _ => rfl⟩

end GitGateway.Settings
