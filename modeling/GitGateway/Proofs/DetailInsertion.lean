import GitGateway.Proofs.StatusForm
import Mathlib.Data.List.InsertIdx

/-!
# One more detail

What becomes of a status when a text is put among its details.

- `Status.Shell`: a status but for what is in its list of details, as an object or as an
  array, and `Shell.fill`, which puts the details in;
- `Shell.Inserts`: a text is put at a place of the list, octet by octet. The octets around
  it stay as they are;
- `Shell.ofNode?_fill_iff`: the shell alone decides on the code and the message, the list
  alone on the details;
- `Shell.exists_shell`: a status that has any details is read from such a list;
- `Status.inserted_detail`: **a value that is acceptable is one more detail and changes
  nothing else, and a value that is not makes the status unreadable**.

So a detail that cannot be classified does not always become `Detail.other`: a number past
the doubles is enough to lose the details beside it (`lost_beside_large_number`).
-/

namespace GitGateway

open Json (Node Value Token)

/-- A pair that belongs together is put in at the same place. -/
theorem forall₂_insertIdx {α β : Type} {R : α → β → Prop} {xs : List α} {ys : List β}
    (h : List.Forall₂ R xs ys) {x : α} {y : β} (here : R x y) (i : Nat) :
    List.Forall₂ R (xs.insertIdx i x) (ys.insertIdx i y) := by
  induction i generalizing xs ys with
  | zero => exact .cons here h
  | succ i ih =>
    cases h with
    | nil => exact .nil
    | cons first later => exact .cons first (ih later)

namespace Status

/-- A status but for what is in its list of details. -/
inductive Shell where
  | object (before : List (Json.Text × Node)) (key : Json.Text) (after : List (Json.Text × Node))
  | array (code message : Node)

namespace Shell

/-- The status with these details. -/
def fill : Shell → List Node → Node
  | object before key after, items => .object (before ++ (key, .array items) :: after)
  | array code message, items => .array [code, message, .array items]

/-- The tokens in front of the first detail. -/
def opening : Shell → List Token
  | object before key _ =>
    .openObject :: (before.flatMap fun member => Json.tokensOfMember member ++ [.comma]) ++
      [.string key, .colon, .openArray]
  | array code message =>
    .openArray :: code.tokens ++ .comma :: message.tokens ++ [.comma, .openArray]

/-- The tokens behind the last detail. -/
def closing : Shell → List Token
  | object _ _ after =>
    .closeArray :: (after.flatMap fun member => .comma :: Json.tokensOfMember member) ++
      [.closeObject]
  | array _ _ => [.closeArray, .closeArray]

/-- The list is that of the details. -/
def Named : Shell → Prop
  | object _ key _ => Json.Text.decode? key = some "details"
  | array _ _ => True

/-- The text `d` is put at place `i` of the details: before it and behind it stay the same
octets, with a comma where there is a neighbour. -/
inductive Inserts (shell : Shell) (i : Nat) (d : Bytes) : Bytes → Bytes → Prop
  | intro {front back : Bytes} {items : List Node} {texts : List Bytes}
      (opens : Token.Layout shell.opening front) (closes : Token.Layout shell.closing back)
      (each : List.Forall₂ Node.Written items texts) (within : i ≤ texts.length) :
      Inserts shell i d (front ++ [0x2C].intercalate texts ++ back)
        (front ++ [0x2C].intercalate (texts.insertIdx i d) ++ back)

theorem tokens_fill (shell : Shell) (items : List Node) :
    (shell.fill items).tokens =
      shell.opening ++ [Token.comma].intercalate (items.map Node.tokens) ++ shell.closing := by
  cases shell with
  | object before key after =>
    rw [fill, Json.tokens_object, List.map_append, List.map_cons, Json.intercalate_append_cons,
      Json.tokensOfMember, Json.tokens_array, List.flatMap_map, List.flatMap_map]
    simp [opening, closing]
  | array code message =>
    rw [fill, Json.tokens_array]
    simp [opening, closing, List.intercalate, Json.tokens_array]

/-- A text can be put at any place of the details of a status. -/
theorem exists_inserts {shell : Shell} {items : List Node} {before : Bytes}
    (written : (shell.fill items).Written before) {i : Nat} (within : i ≤ items.length)
    (d : Bytes) : ∃ after, shell.Inserts i d before after := by
  rw [Node.Written, tokens_fill] at written
  obtain ⟨mid, back, rfl, here, closes⟩ := written.exists_append
  obtain ⟨front, list, rfl, opens, inside⟩ := here.exists_append
  -- blanks inside an empty list stay in front of what is put in
  obtain ⟨blanks, texts, space, each, rfl⟩ := Json.exists_intercalate inside
  have opens' : Token.Layout shell.opening (front ++ blanks) := by
    simpa using opens.append space
  rw [each.length_eq] at within
  rw [← List.append_assoc]
  exact ⟨_, .intro opens' closes each within⟩

/-- What was put in is one more detail. -/
theorem Inserts.written {shell : Shell} {i : Nat} {d before after : Bytes}
    (h : shell.Inserts i d before after) {node : Node} (value : node.Written d) :
    ∃ items : List Node, i ≤ items.length ∧ (shell.fill items).Written before ∧
      (shell.fill (items.insertIdx i node)).Written after := by
  cases h with
  | @intro front back items texts opens closes each within =>
    refine ⟨items, each.length_eq ▸ within, ?_, ?_⟩
    · rw [Node.Written, tokens_fill]
      exact (opens.append (Json.layout_intercalate each)).append closes
    · rw [Node.Written, tokens_fill]
      have more := forall₂_insertIdx each value i
      exact (opens.append (Json.layout_intercalate more)).append closes

/-- What the shell says, whatever the details are. -/
def Says : Shell → Code → String → Prop
  | object before _ after, code, message =>
    (∀ member ∈ before ++ after, ∃ key, Json.Text.decode? member.1 = some key) ∧
    (∃ found, once? (Node.under (before ++ after) "code") = some found ∧
      found.bind Code.ofNode? = some code) ∧
    (∃ found, once? (Node.under (before ++ after) "message") = some found ∧
      found.elim (some "") messageOf? = some message) ∧
    Node.under (before ++ after) "details" = []
  | array code' message', code, message =>
    Code.ofNode? code' = some code ∧ messageOf? message' = some message

/-- What stands under other keys has nothing to do with the details. -/
theorem under_of_ne {before after : List (Json.Text × Node)} {key : Json.Text}
    (named : Json.Text.decode? key = some "details") (node : Node) {name : String}
    (other : "details" ≠ name) :
    Node.under (before ++ (key, node) :: after) name = Node.under (before ++ after) name := by
  have differs : Json.Text.decode? key ≠ some name := by
    rw [named]
    exact fun h => other (Option.some.inj h)
  rw [Node.under_append, Node.under_append, Node.under_cons_of_ne differs]

/-- The details are read if they are the only ones. -/
theorem once?_details_iff {before after : List (Json.Text × Node)} {key : Json.Text}
    (named : Json.Text.decode? key = some "details") {node : Node} {found : Option Node} :
    once? (Node.under (before ++ (key, node) :: after) "details") = some found ↔
      Node.under (before ++ after) "details" = [] ∧ found = some node := by
  rw [Node.under_append, Node.under_append, Node.under_cons_of_eq named]
  cases Node.under before "details" with
  | nil => cases Node.under after "details" with
    | nil => simp [once?, eq_comm]
    | cons => simp [once?]
  | cons _ rest => cases rest <;> simp [once?]

/-- **The shell alone decides on the code and the message, the list alone on the details.** -/
theorem ofNode?_fill_iff {shell : Shell} (named : shell.Named) {items : List Node}
    {status : Status} : ofNode? (shell.fill items) = some status ↔
      shell.Says status.code status.message ∧
      detailsOf? (.array items) = some status.details := by
  cases shell with
  | object before key after =>
    -- the list is a member with a key that can be read, and no other key is called so
    have keys : (∀ member ∈ before ++ (key, Node.array items) :: after,
        ∃ name, Json.Text.decode? member.1 = some name) ↔
        ∀ member ∈ before ++ after, ∃ name, Json.Text.decode? member.1 = some name := by
      rw [List.forall_mem_append, List.forall_mem_append, List.forall_mem_cons]
      exact and_congr_right fun _ => and_iff_right ⟨_, named⟩
    rw [fill, ofNode?_object_eq_some_iff, keys, under_of_ne named _ (by decide),
      under_of_ne named _ (by decide)]
    simp only [once?_details_iff named]
    constructor
    · rintro ⟨names, code, message, _, isCode, isMessage, ⟨single, rfl⟩, read⟩
      obtain ⟨toCode, toMessage, toDetails⟩ := ofParts?_eq_some_iff.mp read
      exact ⟨⟨names, ⟨code, isCode, toCode⟩, ⟨message, isMessage, toMessage⟩, single⟩, toDetails⟩
    · rintro ⟨⟨names, ⟨code, isCode, toCode⟩, ⟨message, isMessage, toMessage⟩, single⟩, toDetails⟩
      exact ⟨names, code, message, _, isCode, isMessage, ⟨single, rfl⟩,
        ofParts?_eq_some_iff.mpr ⟨toCode, toMessage, toDetails⟩⟩
  | array code message =>
    have parts : ofParts? (some code) (some message) (some (.array items)) = some status ↔ _ :=
      ofParts?_eq_some_iff
    rw [Says, and_assoc]
    exact parts

/-- Only a list has details in it. -/
theorem exists_items {details : Option Node} {found : List Detail}
    (h : details.elim (some []) detailsOf? = some found) (nonempty : found ≠ []) :
    ∃ items, details = some (.array items) := by
  cases details with
  | none => exact absurd (Option.some.inj h).symm nonempty
  | some node => cases node with
    | array items => exact ⟨items, rfl⟩
    | null => exact absurd (Option.some.inj h).symm nonempty
    | _ => cases h

theorem mem_of_once? {nodes : List Node} {node : Node} (h : once? nodes = some (some node)) :
    node ∈ nodes := by
  unfold once? at h
  split at h <;> cases h
  exact List.mem_singleton_self node

/-- A status that has details has them from a list in a shell. -/
theorem exists_shell {body : Bytes} {status : Status} (read : read? body = some status)
    (nonempty : status.details ≠ []) : ∃ (shell : Shell) (items : List Node),
      shell.Named ∧ (shell.fill items).Written body := by
  obtain ⟨node, written, read⟩ := Option.bind_eq_some_iff.mp read
  rw [Node.read?_eq_some_iff] at written
  cases node with
  | object members =>
    obtain ⟨-, code, message, details, -, -, single, parts⟩ :=
      ofNode?_object_eq_some_iff.mp read
    obtain ⟨items, rfl⟩ := exists_items (ofParts?_eq_some_iff.mp parts).2.2 nonempty
    obtain ⟨before, key, after, rfl, named⟩ := Node.exists_member_of_mem_under (mem_of_once? single)
    exact ⟨.object before key after, items, named, written⟩
  | array nodes =>
    unfold ofNode? at read
    split at read
    · cases ‹Node.array nodes = .object _›
    · exact absurd (Option.some.inj (ofParts?_eq_some_iff.mp read).2.2).symm nonempty
    · exact absurd (Option.some.inj (ofParts?_eq_some_iff.mp read).2.2).symm nonempty
    · rename_i code message details same
      obtain ⟨items, same'⟩ := exists_items (ofParts?_eq_some_iff.mp read).2.2 nonempty
      obtain rfl := Option.some.inj same'
      cases same
      exact ⟨.array code message, items, trivial, written⟩
    · cases read
  | _ => cases read

end Shell

/-- An acceptable value among the details is read as one more of them. -/
theorem detailsOf?_insertIdx {items : List Node} {details : List Detail}
    (h : detailsOf? (.array items) = some details) {node : Node} {value : Value}
    (means : Value.ofNode? (maxDepth - 2) node = some value) (i : Nat) :
    detailsOf? (.array (items.insertIdx i node)) =
      some (details.insertIdx i (Detail.ofValue value)) :=
  detailsOf?_eq_some_iff.mpr
    (forall₂_insertIdx (detailsOf?_eq_some_iff.mp h) ⟨value, means, rfl⟩ i)

/-- Any other value among the details makes all of them unreadable. -/
theorem detailsOf?_insertIdx_eq_none {items : List Node} {node : Node}
    (refused : ¬ node.Acceptable (maxDepth - 2)) {i : Nat} (within : i ≤ items.length) :
    detailsOf? (.array (items.insertIdx i node)) = none := by
  cases read : detailsOf? (.array (items.insertIdx i node)) with
  | none => rfl
  | some details =>
    have all := exists_detailsOf?_iff.mp ⟨details, read⟩
    exact absurd (all node ((List.mem_insertIdx within).mpr (.inl rfl))) refused

/-- One more detail takes no overload back. -/
theorem isOverloaded_insertIdx {status after : Status} {i : Nat} {detail : Detail}
    (more : after.details = status.details.insertIdx i detail)
    (h : status.isOverloaded = true) : after.isOverloaded = true := by
  obtain ⟨found, mem, limit⟩ := List.any_eq_true.mp h
  rw [isOverloaded, more]
  exact List.any_eq_true.mpr ⟨found, List.subset_insertIdx _ _ _ mem, limit⟩

/-- **A value that is put among the details of a status** is one more detail if it is
acceptable, and then nothing else changes; if it is not, there is no status any more. -/
theorem inserted_detail {shell : Shell} (named : shell.Named) {items : List Node}
    {before : Bytes} (written : (shell.fill items).Written before) {status : Status}
    (read : read? before = some status) {i : Nat} (within : i ≤ items.length) {d : Bytes}
    {node : Node} (value : node.Written d) :
    (∃ after, shell.Inserts i d before after) ∧
    ∀ after, shell.Inserts i d before after →
      (node.Acceptable (maxDepth - 2) → ∃ status' detail, read? after = some status' ∧
        Detail.Told node detail ∧
        status'.code = status.code ∧ status'.message = status.message ∧
        status'.details = status.details.insertIdx i detail ∧
        (status.isOverloaded = true → status'.isOverloaded = true)) ∧
      (¬ node.Acceptable (maxDepth - 2) → read? after = none) := by
  refine ⟨Shell.exists_inserts written within d, fun after inserts => ?_⟩
  -- both texts are texts of one shell, which says the same in both
  obtain ⟨items, within, written, written'⟩ := inserts.written value
  rw [read?, Node.read?_eq_some_iff.mpr written, Option.bind_some] at read
  obtain ⟨said, details⟩ := (Shell.ofNode?_fill_iff named).mp read
  rw [read?, Node.read?_eq_some_iff.mpr written', Option.bind_some]
  constructor
  · intro acceptable
    obtain ⟨value, means⟩ := Value.exists_ofNode?_iff.mpr acceptable
    have more := detailsOf?_insertIdx details means i
    exact ⟨{ status with details := status.details.insertIdx i (Detail.ofValue value) },
      Detail.ofValue value, (Shell.ofNode?_fill_iff named).mpr ⟨said, more⟩,
      Detail.told_ofValue means, rfl, rfl, rfl, isOverloaded_insertIdx rfl⟩
  · intro refused
    cases fails : ofNode? (shell.fill (items.insertIdx i node)) with
    | none => rfl
    | some status' =>
      obtain ⟨-, all⟩ := (Shell.ofNode?_fill_iff named).mp fails
      rw [detailsOf?_insertIdx_eq_none refused within] at all
      cases all

/-- A limit that is put behind another detail, in a status that is written as an array. -/
theorem limit_is_put_last :
    let octets (text : String) : Json.Text := (Utf8.encode text).map .octet
    let shell : Shell := .array (.string (octets "INTERNAL")) (.string (octets "busy"))
    let limit : Node := .object [(octets "@type", .string (octets Detail.limitType))]
    let before := Utf8.encode "[\"INTERNAL\", \"busy\", [true ]]"
    let d := Utf8.encode "\x7b\"@type\": \"type.googleapis.com/gitaly.LimitError\"\x7d"
    read? before = some ⟨.internal, "busy", [.other]⟩ ∧ limit.Written d ∧
      ∃ after status detail, shell.Inserts 1 d before after ∧ read? after = some status ∧
        Detail.Told limit detail ∧ status.details = [.other, detail] ∧
        status.code = .internal ∧ status.message = "busy" := by
  intro octets shell limit before d
  have read : read? before = some ⟨.internal, "busy", [.other]⟩ := by decide +kernel
  have written : (shell.fill [.boolean true]).Written before :=
    Token.layout_of_scan (by decide +kernel)
  have value : limit.Written d := Token.layout_of_scan (by decide +kernel)
  have named : shell.Named := trivial
  have type : Json.Text.decode? (octets "@type") = some "@type" := by decide +kernel
  have limitType : Json.Text.decode? (octets Detail.limitType) = some Detail.limitType := by
    decide +kernel
  have acceptable : limit.Acceptable (maxDepth - 2) := by
    refine .object (List.forall_mem_cons.mpr ⟨⟨_, type⟩, List.forall_mem_nil _⟩) ?_
    exact List.forall_mem_cons.mpr ⟨.string limitType, List.forall_mem_nil _⟩
  obtain ⟨⟨after, inserts⟩, outcome⟩ :=
    inserted_detail named written read (Nat.le_refl 1) value
  obtain ⟨status, detail, reads, told, code, message, details, -⟩ :=
    (outcome after inserts).1 acceptable
  exact ⟨read, value, after, status, detail, inserts, reads, told, details, code, message⟩

/-- A number past the doubles takes the limit beside it along, so there is a value among the
details that makes the whole status unreadable. -/
theorem lost_beside_large_number :
    let octets (text : String) : Json.Text := (Utf8.encode text).map .octet
    let shell : Shell :=
      .object [(octets "code", .string (octets "RESOURCE_EXHAUSTED"))] (octets "details") []
    let limit : Node := .object [(octets "@type", .string (octets Detail.limitType))]
    let large : Node := .number ⟨false, [1], none, some (false, [9, 9, 9])⟩
    let d := Utf8.encode "1e999"
    let before := Utf8.encode ("\x7b\"code\": \"RESOURCE_EXHAUSTED\", \"details\": [" ++
      "\x7b\"@type\": \"type.googleapis.com/gitaly.LimitError\"\x7d]\x7d")
    let after := Utf8.encode ("\x7b\"code\": \"RESOURCE_EXHAUSTED\", \"details\": [1e999," ++
      "\x7b\"@type\": \"type.googleapis.com/gitaly.LimitError\"\x7d]\x7d")
    read? before = some ⟨.resourceExhausted, "", [.limitReached "" 0]⟩ ∧
      (shell.fill [limit]).Written before ∧ large.Written d ∧
      shell.Inserts 0 d before after ∧ read? after = none ∧
      ¬ ∀ (shell : Shell) (items : List Node) (before after d : Bytes) (status : Status) (i : Nat)
        (node : Node), shell.Named → (shell.fill items).Written before →
        read? before = some status → node.Written d → shell.Inserts i d before after →
        ∃ status', read? after = some status' := by
  intro octets shell limit large d before after
  have read : read? before = some ⟨.resourceExhausted, "", [.limitReached "" 0]⟩ := by
    decide +kernel
  have lost : read? after = none := by decide +kernel
  have written : (shell.fill [limit]).Written before := Token.layout_of_scan (by decide +kernel)
  have value : large.Written d := Token.layout_of_scan (by decide +kernel)
  have inserts : shell.Inserts 0 d before after := by
    let front := Utf8.encode "\x7b\"code\": \"RESOURCE_EXHAUSTED\", \"details\": ["
    let only := Utf8.encode "\x7b\"@type\": \"type.googleapis.com/gitaly.LimitError\"\x7d"
    let back := Utf8.encode "]\x7d"
    have opens : Token.Layout shell.opening front := Token.layout_of_scan (by decide +kernel)
    have closes : Token.Layout shell.closing back := Token.layout_of_scan (by decide +kernel)
    have each : List.Forall₂ Node.Written [limit] [only] :=
      .cons (Token.layout_of_scan (by decide +kernel)) .nil
    have cut : before = front ++ [0x2C].intercalate [only] ++ back := by decide +kernel
    have cut' : after = front ++ [0x2C].intercalate ([only].insertIdx 0 d) ++ back := by
      decide +kernel
    rw [cut, cut']
    exact .intro opens closes each (Nat.zero_le _)
  refine ⟨read, written, value, inserts, lost, fun all => ?_⟩
  have named : Json.Text.decode? (octets "details") = some "details" := by decide +kernel
  obtain ⟨status, survives⟩ :=
    all shell [limit] before after _ _ 0 large named written read value inserts
  rw [lost] at survives
  cases survives

end Status

end GitGateway
