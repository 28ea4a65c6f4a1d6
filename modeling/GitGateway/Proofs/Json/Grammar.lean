import GitGateway.Json.Node
import GitGateway.Proofs.Json.Lexeme
import Mathlib.Data.List.Forall2

/-!
# Texts of syntax trees

The other half of the JSON grammar, and what it has to do with the reader.

- `Node.tokens`: the tokens of a tree, which are the same however it is written;
- `Node.Written`: a text of a tree is a text of its tokens;
- `Node.read?_eq_some_iff`: **the reader accepts exactly the grammar**. A text is read as
  a tree if and only if it is a text of that tree.

For the one half, a half-read text has tokens of its own (`Builder.tokens`), to which every
step adds the token that it takes, so nothing is made up. For the other half, a tree is
read in any place where a value may stand, by induction on the tree (`Builder.reads`), so
nothing is refused. No depth is asked for anywhere.
-/

namespace GitGateway.Json

/-! ## Trees -/

/-- What holds of the scalars, and of a container if it holds of what is inside, holds of
all trees. -/
theorem Node.induction {motive : Node → Prop} (null : motive .null)
    (boolean : ∀ value, motive (.boolean value)) (number : ∀ numeral, motive (.number numeral))
    (string : ∀ body, motive (.string body))
    (array : ∀ items, (∀ item ∈ items, motive item) → motive (.array items))
    (object : ∀ members, (∀ member ∈ members, motive member.2) → motive (.object members)) :
    ∀ node, motive node
  | .null => null
  | .boolean value => boolean value
  | .number numeral => number numeral
  | .string body => string body
  | .array items => array items fun item _ =>
    Node.induction null boolean number string array object item
  | .object members => object members fun member _ =>
    Node.induction null boolean number string array object member.2
termination_by node => sizeOf node
decreasing_by
  · have := List.sizeOf_lt_of_mem ‹item ∈ items›
    simp only [Node.array.sizeOf_spec]
    omega
  · have := List.sizeOf_lt_of_mem ‹member ∈ members›
    obtain ⟨key, node⟩ := member
    simp only [Node.object.sizeOf_spec, Prod.mk.sizeOf_spec] at *
    omega

mutual

/-- The tokens of a tree. -/
def Node.tokens : Node → List Token
  | .null => [.null]
  | .boolean value => [.boolean value]
  | .number numeral => [.number numeral]
  | .string body => [.string body]
  | .array items => .openArray :: [Token.comma].intercalate (itemTokens items) ++ [.closeArray]
  | .object members =>
    .openObject :: [Token.comma].intercalate (memberTokens members) ++ [.closeObject]

/-- The tokens of each item of an array. -/
def itemTokens : List Node → List (List Token)
  | [] => []
  | item :: rest => item.tokens :: itemTokens rest

/-- The tokens of each member of an object. -/
def memberTokens : List (Text × Node) → List (List Token)
  | [] => []
  | (key, node) :: rest => (.string key :: .colon :: node.tokens) :: memberTokens rest

end

/-- The tokens of a member. -/
def tokensOfMember (member : Text × Node) : List Token :=
  .string member.1 :: .colon :: member.2.tokens

theorem itemTokens_eq_map (items : List Node) : itemTokens items = items.map Node.tokens := by
  induction items with
  | nil => rfl
  | cons item rest ih => rw [itemTokens, ih, List.map_cons]

theorem memberTokens_eq_map (members : List (Text × Node)) :
    memberTokens members = members.map tokensOfMember := by
  induction members with
  | nil => rfl
  | cons member rest ih =>
    obtain ⟨key, node⟩ := member
    rw [memberTokens, ih, List.map_cons]
    rfl

/-- Parts with a separator in front of each but the first. -/
theorem intercalate_cons {α : Type} (separator first : List α) (rest : List (List α)) :
    separator.intercalate (first :: rest) =
      first ++ rest.flatMap fun part => separator ++ part := by
  induction rest generalizing first with
  | nil => simp [List.intercalate]
  | cons next rest ih =>
    rw [List.flatMap_cons, List.append_assoc separator next, ← ih next]
    simp [List.intercalate]

/-- Parts with one in the middle: separators stand behind those before it and in front of
those after it. -/
theorem intercalate_append_cons {α : Type} (separator part : List α)
    (front back : List (List α)) : separator.intercalate (front ++ part :: back) =
      (front.flatMap fun part => part ++ separator) ++ part ++
        back.flatMap fun part => separator ++ part := by
  induction front with
  | nil => exact intercalate_cons separator part back
  | cons first rest ih =>
    have more : separator.intercalate (first :: (rest ++ part :: back)) =
        first ++ separator ++ separator.intercalate (rest ++ part :: back) := by
      cases rest <;> simp [List.intercalate]
    rw [List.cons_append, more, ih, List.flatMap_cons]
    simp only [List.append_assoc]

theorem tokens_array (items : List Node) : (Node.array items).tokens =
    .openArray :: [Token.comma].intercalate (items.map Node.tokens) ++ [.closeArray] := by
  rw [Node.tokens, itemTokens_eq_map]

theorem tokens_object (members : List (Text × Node)) : (Node.object members).tokens =
    .openObject :: [Token.comma].intercalate (members.map tokensOfMember) ++ [.closeObject] := by
  rw [Node.tokens, memberTokens_eq_map]

/-- The parts of a container up to the last, each with the comma behind it, and the last. -/
theorem intercalate_map_concat {α : Type} (tokensOf : α → List Token) (parts : List α)
    (last : α) : [Token.comma].intercalate ((parts ++ [last]).map tokensOf) =
      (parts.flatMap fun part => tokensOf part ++ [.comma]) ++ tokensOf last := by
  rw [List.map_append, List.map_singleton, intercalate_append_cons, List.flatMap_map,
    List.flatMap_nil, List.append_nil]

/-- A text of a tree: its tokens as they may be written, with blanks around them. -/
def Node.Written (node : Node) (text : Bytes) : Prop :=
  Token.Layout node.tokens text

/-- Texts of tokens with commas between them are a text of the tokens with commas. -/
theorem Token.layout_intercalate {parts : List (List Token)} {texts : List Bytes}
    (h : List.Forall₂ Token.Layout parts texts) :
    Token.Layout ([Token.comma].intercalate parts) ([0x2C].intercalate texts) := by
  cases h with
  | nil => exact .done
  | @cons part text parts texts first later =>
    rw [intercalate_cons, intercalate_cons]
    refine first.append ?_
    clear first
    induction later with
    | nil => exact .done
    | cons next _ ih =>
      rw [List.flatMap_cons, List.flatMap_cons]
      exact (Token.Layout.token .comma next).append ih

/-- Texts of trees with commas between them are a text of the trees' tokens with commas. -/
theorem layout_intercalate {nodes : List Node} {texts : List Bytes}
    (h : List.Forall₂ Node.Written nodes texts) :
    Token.Layout ([Token.comma].intercalate (nodes.map Node.tokens))
      ([0x2C].intercalate texts) :=
  Token.layout_intercalate (List.forall₂_map_left_iff.mpr h)

/-- A text of such tokens can be cut at its commas. Where there are no trees it holds
blanks. -/
theorem exists_intercalate {nodes : List Node} {text : Bytes}
    (h : Token.Layout ([Token.comma].intercalate (nodes.map Node.tokens)) text) :
    ∃ blanks texts, Token.Layout [] blanks ∧ List.Forall₂ Node.Written nodes texts ∧
      text = blanks ++ [0x2C].intercalate texts := by
  cases nodes with
  | nil => exact ⟨text, [], h, .nil, (List.append_nil _).symm⟩
  | cons first rest =>
    induction rest generalizing first text with
    | nil =>
      have one : first.Written text := by simpa [Node.Written] using h
      exact ⟨[], [text], .done, .cons one .nil, by simp⟩
    | cons next rest ih =>
      have split : [Token.comma].intercalate ((first :: next :: rest).map Node.tokens) =
          first.tokens ++ Token.comma :: [Token.comma].intercalate
            ((next :: rest).map Node.tokens) := by
        simp [List.intercalate]
      rw [split] at h
      -- blanks in front of the comma go to the tree before it, those behind it to the next
      obtain ⟨here, tail, rfl, one, behind⟩ := h.exists_append
      obtain ⟨blanks, lexeme, more, rfl, space, mark, later⟩ := behind.exists_cons
      cases mark
      obtain ⟨blanks', texts, space', each, rfl⟩ := ih next later
      cases each with
      | @cons _ second _ texts two each =>
        have one' : first.Written (here ++ blanks) := by
          simpa [Node.Written] using one.append space
        refine ⟨[], (here ++ blanks) :: (blanks' ++ second) :: texts, .done,
          .cons one' (.cons (space'.append two) each), ?_⟩
        simp [intercalate_cons]

/-! ## What is read is not made up -/

/-- The tokens of a container up to the place where its next value goes. -/
def Open.tokens : Open → List Token
  | .array items => .openArray :: items.reverse.flatMap fun item => item.tokens ++ [.comma]
  | .object members key =>
    .openObject :: (members.reverse.flatMap fun member => tokensOfMember member ++ [.comma]) ++
      [.string key, .colon]

/-- The tokens of what is being read in the innermost container. -/
def Phase.tokens : Phase → List Token
  | .value | .firstItem => []
  | .firstKey => [.openObject]
  | .key members =>
    .openObject :: members.reverse.flatMap fun member => tokensOfMember member ++ [.comma]
  | .colon members name =>
    .openObject :: (members.reverse.flatMap fun member => tokensOfMember member ++ [.comma]) ++
      [.string name]
  | .ended node => node.tokens

namespace Builder

/-- The tokens of a half-read text. -/
def tokens (builder : Builder) : List Token :=
  builder.stack.reverse.flatMap Open.tokens ++ builder.phase.tokens

/-- The first item is looked for in an array that is empty so far. -/
def Fresh (builder : Builder) : Prop :=
  builder.phase = .firstItem → ∃ stack, builder.stack = .array [] :: stack

theorem tokens_push (container : Open) (stack : List Open) (phase : Phase) :
    tokens ⟨container :: stack, phase⟩ =
      stack.reverse.flatMap Open.tokens ++ (container.tokens ++ phase.tokens) := by
  simp [tokens]

/-- What a builder has become after a token. -/
def Takes (before : Builder) (token : Token) (after : Builder) : Prop :=
  after.Fresh ∧ after.tokens = before.tokens ++ [token]

theorem beginValue_takes {stack : List Open} {phase : Phase} (empty : phase.tokens = [])
    {token : Token} {after : Builder} (h : beginValue stack token = some after) :
    Takes ⟨stack, phase⟩ token after := by
  have before : tokens ⟨stack, phase⟩ = stack.reverse.flatMap Open.tokens := by
    rw [tokens, empty, List.append_nil]
  rw [Takes, before]
  cases token with
  | openArray =>
    cases h
    exact ⟨fun _ => ⟨stack, rfl⟩, by rw [tokens_push]; rfl⟩
  | null | boolean | number | string | openObject =>
    cases h
    refine ⟨nofun, ?_⟩
    simp only [tokens, Phase.tokens, Node.tokens]
  | _ => cases h

theorem afterValue_takes {node : Node} {stack : List Open} {token : Token} {after : Builder}
    (h : afterValue node stack token = some after) : Takes ⟨stack, .ended node⟩ token after := by
  unfold afterValue at h
  split at h
  · cases h
    refine ⟨nofun, ?_⟩
    simp [tokens, Open.tokens, Phase.tokens]
  · cases h
    refine ⟨nofun, ?_⟩
    simp [tokens, Open.tokens, Phase.tokens, tokens_array, intercalate_map_concat,
      -List.map_append]
  · cases h
    refine ⟨nofun, ?_⟩
    simp [tokens, Open.tokens, Phase.tokens, tokensOfMember]
  · cases h
    refine ⟨nofun, ?_⟩
    simp [tokens, Open.tokens, Phase.tokens, tokens_object, intercalate_map_concat,
      -List.map_append, tokensOfMember]
  · cases h

/-- **A step takes its token**: what was read so far has that token at its end. -/
theorem step_takes {before after : Builder} {token : Token} (fresh : before.Fresh)
    (h : before.step token = some after) : before.Takes token after := by
  obtain ⟨stack, phase⟩ := before
  cases phase with
  | value => exact beginValue_takes rfl h
  | firstItem =>
    obtain ⟨outer, rfl⟩ := fresh rfl
    cases token with
    | closeArray =>
      cases h
      refine ⟨nofun, ?_⟩
      simp [tokens, Open.tokens, Phase.tokens, tokens_array, List.intercalate]
    | _ => exact beginValue_takes rfl h
  | firstKey =>
    cases token with
    | closeObject =>
      cases h
      refine ⟨nofun, ?_⟩
      simp [tokens, Phase.tokens, tokens_object, List.intercalate]
    | string key =>
      cases h
      refine ⟨nofun, ?_⟩
      simp [tokens, Phase.tokens]
    | _ => cases h
  | key members =>
    cases token with
    | string key =>
      cases h
      refine ⟨nofun, ?_⟩
      simp [tokens, Phase.tokens]
    | _ => cases h
  | colon members key =>
    cases token with
    | colon =>
      cases h
      refine ⟨nofun, ?_⟩
      simp [tokens, Open.tokens, Phase.tokens]
    | _ => cases h
  | ended node => exact afterValue_takes h

/-- What a builder has become after some tokens. -/
def Runs (before : Builder) (tokens : List Token) (after : Builder) : Prop :=
  tokens.foldlM step before = some after

theorem Runs.cons {before mid after : Builder} {token : Token} {rest : List Token}
    (first : before.step token = some mid) (later : Runs mid rest after) :
    Runs before (token :: rest) after := by
  rw [Runs, List.foldlM_cons, first]
  exact later

theorem Runs.exists_cons {before after : Builder} {token : Token} {rest : List Token}
    (h : Runs before (token :: rest) after) :
    ∃ mid, before.step token = some mid ∧ Runs mid rest after :=
  Option.bind_eq_some_iff.mp h

theorem Runs.append {before mid after : Builder} {first second : List Token}
    (h : Runs before first mid) (h' : Runs mid second after) :
    Runs before (first ++ second) after := by
  rw [Runs, List.foldlM_append, h]
  exact h'

/-- Any number of steps take their tokens. -/
theorem Runs.tokens_eq {before after : Builder} {tokens : List Token} (fresh : before.Fresh)
    (h : Runs before tokens after) : after.tokens = before.tokens ++ tokens := by
  induction tokens generalizing before with
  | nil =>
    obtain rfl := Option.some.inj h
    exact (List.append_nil _).symm
  | cons token rest ih =>
    obtain ⟨mid, first, later⟩ := h.exists_cons
    obtain ⟨fresh', taken⟩ := step_takes fresh first
    rw [ih fresh' later, taken, List.append_assoc]
    rfl

/-- A number has ended as soon as it is read. -/
theorem ended_of_step_number {before after : Builder} {numeral : Numeral}
    (h : before.step (.number numeral) = some after) : after.phase = .ended (.number numeral) := by
  obtain ⟨stack, phase⟩ := before
  cases phase with
  | value => cases h; rfl
  | firstItem =>
    cases stack with
    | nil => cases h; rfl
    | cons container outer => cases container <;> cases h <;> rfl
  | firstKey | key | colon => cases h
  | ended node =>
    cases stack with
    | nil => cases h
    | cons container outer => cases container <;> cases h

/-- What has ended is followed by a comma or the end of its container. -/
theorem isNumber_of_afterValue {node : Node} {stack : List Open} {token : Token}
    {after : Builder} (h : afterValue node stack token = some after) :
    token.isNumber = false := by
  unfold afterValue at h
  split at h
  · rfl
  · rfl
  · rfl
  · rfl
  · cases h

/-- Tokens that are read hold no two numbers side by side. -/
theorem Runs.apart {before after : Builder} {tokens : List Token} (h : Runs before tokens after) :
    Token.Apart tokens := by
  induction tokens generalizing before with
  | nil => trivial
  | cons token rest ih =>
    obtain ⟨⟨stack, phase⟩, first, later⟩ := h.exists_cons
    refine ⟨fun number next head => ?_, ih later⟩
    -- after a number a value has ended, and the next token is no number then
    cases token with
    | number numeral =>
      obtain rfl : phase = .ended (.number numeral) := ended_of_step_number first
      obtain ⟨tail, rfl⟩ := List.head?_eq_some_iff.mp head
      obtain ⟨_, second, -⟩ := later.exists_cons
      exact isNumber_of_afterValue second
    | _ => cases number

/-! ## What is written is not refused -/

/-- The first token of a tree closes nothing. -/
theorem exists_first_token (node : Node) :
    ∃ token rest, node.tokens = token :: rest ∧ token ≠ .closeArray := by
  cases node with
  | array items => exact ⟨_, _, tokens_array items, nofun⟩
  | object members => exact ⟨_, _, tokens_object members, nofun⟩
  | null | boolean | number | string =>
    rw [Node.tokens]
    exact ⟨_, _, rfl, nofun⟩

/-- What closes nothing may start the first item as it may start any other. -/
theorem step_firstItem {stack : List Open} {token : Token} (other : token ≠ .closeArray) :
    step ⟨stack, .firstItem⟩ token = step ⟨stack, .value⟩ token := by
  cases token with
  | closeArray => exact absurd rfl other
  | _ => cases stack with
    | nil => rfl
    | cons container outer => cases container <;> rfl

/-- A tree is read where a value may stand. -/
def Reads (node : Node) : Prop :=
  ∀ stack, Runs ⟨stack, .value⟩ node.tokens ⟨stack, .ended node⟩

theorem Reads.firstItem {node : Node} (h : Reads node) (stack : List Open) :
    Runs ⟨stack, .firstItem⟩ node.tokens ⟨stack, .ended node⟩ := by
  obtain ⟨token, rest, first, other⟩ := exists_first_token node
  have here := h stack
  rw [first] at here ⊢
  obtain ⟨mid, one, later⟩ := here.exists_cons
  exact .cons (step_firstItem other ▸ one) later

/-- A container is read from its first part to its end, if it is read from each part to the
next. `inside` is the builder behind a part, `closed` the one behind the end. -/
theorem runs_rest {α : Type} {tokensOf : α → List Token} (close : Token)
    (inside : List α → α → Builder) (closed : List α → Builder) {parts : List α}
    (next : ∀ part ∈ parts, ∀ seen last,
      Runs (inside seen last) (.comma :: tokensOf part) (inside (last :: seen) part))
    (stop : ∀ seen last, (inside seen last).step close = some (closed (last :: seen).reverse))
    (seen : List α) (last : α) :
    Runs (inside seen last) ((parts.flatMap fun part => [.comma] ++ tokensOf part) ++ [close])
      (closed (seen.reverse ++ last :: parts)) := by
  induction parts generalizing seen last with
  | nil =>
    rw [← List.reverse_cons]
    exact .cons (stop seen last) rfl
  | cons part rest ih =>
    obtain ⟨here, later⟩ := List.forall_mem_cons.mp next
    have behind := ih later (last :: seen) part
    rw [List.reverse_cons, List.append_assoc] at behind
    rw [List.flatMap_cons, List.append_assoc]
    exact (here seen last).append behind

/-- A member is read where its key may stand. -/
theorem runs_member {member : Text × Node} (h : Reads member.2) {stack : List Open}
    {phase : Phase} {members : List (Text × Node)}
    (key : step ⟨stack, phase⟩ (.string member.1) = some ⟨stack, .colon members member.1⟩) :
    Runs ⟨stack, phase⟩ (tokensOfMember member)
      ⟨.object members member.1 :: stack, .ended member.2⟩ :=
  .cons key (.cons rfl (h _))

/-- **Every tree is read** where a value may stand. -/
theorem reads (node : Node) : Reads node := by
  induction node using Node.induction with
  | null | boolean | number | string =>
    intro stack
    rw [Node.tokens]
    exact .cons rfl rfl
  | array items ih =>
    intro stack
    rw [tokens_array]
    cases items with
    | nil => exact .cons rfl (.cons rfl rfl)
    | cons first rest =>
      obtain ⟨here, later⟩ := List.forall_mem_cons.mp ih
      rw [List.map_cons, intercalate_cons, List.flatMap_map, List.cons_append, List.append_assoc]
      -- behind a comma the item is read in the place of the one before it
      have behind := runs_rest .closeArray (fun seen last => ⟨.array seen :: stack, .ended last⟩)
        (fun items => ⟨stack, .ended (.array items)⟩)
        (fun item mem _ _ => .cons rfl (later item mem _)) (fun _ _ => rfl) [] first
      exact .cons rfl ((here.firstItem _).append behind)
  | object members ih =>
    intro stack
    rw [tokens_object]
    cases members with
    | nil => exact .cons rfl (.cons rfl rfl)
    | cons first rest =>
      obtain ⟨here, later⟩ := List.forall_mem_cons.mp ih
      rw [List.map_cons, intercalate_cons, List.flatMap_map, List.cons_append, List.append_assoc]
      have behind := runs_rest .closeObject
        (fun seen (last : Text × Node) => ⟨.object seen last.1 :: stack, .ended last.2⟩)
        (fun members => ⟨stack, .ended (.object members)⟩)
        (fun member mem _ _ => .cons rfl (runs_member (later member mem) rfl)) (fun _ _ => rfl)
        [] first
      exact .cons rfl ((runs_member here rfl).append behind)

end Builder

namespace Node

/-- A list of tokens spells the tree whose tokens it is. -/
theorem ofTokens?_eq_some_iff {tokens : List Token} {node : Node} :
    ofTokens? tokens = some node ↔ tokens = node.tokens := by
  constructor
  · intro h
    obtain ⟨after, run, finish⟩ := Option.bind_eq_some_iff.mp h
    -- only a builder without open containers finishes, and its tokens are those of its tree
    unfold Builder.finish? at finish
    split at finish
    · cases finish
      have fresh : Builder.start.Fresh := nofun
      exact (Builder.Runs.tokens_eq fresh run).symm
    · cases finish
  · rintro rfl
    exact Option.bind_eq_some_iff.mpr ⟨_, Builder.reads node [], rfl⟩

/-- **The reader accepts exactly the grammar**, at any depth: a text is read as a tree if and
only if it is a text of that tree. -/
theorem read?_eq_some_iff {text : Bytes} {node : Node} :
    read? text = some node ↔ node.Written text := by
  constructor
  · intro h
    obtain ⟨tokens, scanned, spelled⟩ := Option.bind_eq_some_iff.mp h
    obtain rfl := ofTokens?_eq_some_iff.mp spelled
    exact Token.layout_of_scan scanned
  · intro h
    exact Option.bind_eq_some_iff.mpr
      ⟨_, Token.scan_layout h (Builder.reads node []).apart, ofTokens?_eq_some_iff.mpr rfl⟩

end Node

end GitGateway.Json
