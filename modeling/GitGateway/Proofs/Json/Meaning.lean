import GitGateway.Json.Value
import GitGateway.Proofs.Json.Grammar
import Mathlib.Data.List.Forall2

/-!
# What a tree means to a reader

A reader that looks at all of a value asks more of it than the grammar does: text in its
strings and keys, a place among the doubles for its numbers, and an end to its nesting.

- `Node.Acceptable`: what is asked, as a reference that follows the tree;
- `Value.exists_ofNode?_iff`: a tree has a value if and only if it is acceptable;
- `Node.effective`: the member of an object that counts. Keys are told by their text,
  however they are written, and of several the last one counts;
- `Value.rel_get?`: that is the member that the value of the object has.

Readers of a value are then described from its tree alone.
-/

namespace GitGateway.Json

/-- A partial map over a list takes each element to its image. -/
theorem mapM_eq_some_iff {α β : Type} {f : α → Option β} {xs : List α} {ys : List β} :
    xs.mapM f = some ys ↔ List.Forall₂ (fun x y => f x = some y) xs ys := by
  induction xs generalizing ys with
  | nil =>
    rw [List.mapM_nil, List.forall₂_nil_left_iff]
    exact ⟨fun h => (Option.some.inj h).symm, fun h => h ▸ rfl⟩
  | cons x xs ih =>
    rw [List.mapM_cons, List.forall₂_cons_left_iff]
    constructor
    · intro h
      obtain ⟨y, first, h⟩ := Option.bind_eq_some_iff.mp h
      obtain ⟨rest, later, h⟩ := Option.bind_eq_some_iff.mp h
      exact ⟨y, rest, first, ih.mp later, (Option.some.inj h).symm⟩
    · rintro ⟨y, rest, first, later, rfl⟩
      rw [first, ih.mpr later]
      rfl

/-- A relation can be followed along a list if it can be followed from each element. -/
theorem exists_forall₂_iff {α β : Type} {R : α → β → Prop} {xs : List α} :
    (∃ ys, List.Forall₂ R xs ys) ↔ ∀ x ∈ xs, ∃ y, R x y := by
  induction xs with
  | nil => exact ⟨fun _ => nofun, fun _ => ⟨[], .nil⟩⟩
  | cons x xs ih =>
    rw [List.forall_mem_cons, ← ih]
    constructor
    · rintro ⟨_, _ | ⟨first, later⟩⟩
      exact ⟨⟨_, first⟩, _, later⟩
    · rintro ⟨⟨y, first⟩, ys, later⟩
      exact ⟨y :: ys, .cons first later⟩

/-- What belongs together ends together. -/
theorem rel_getLast? {α β : Type} {R : α → β → Prop} {xs : List α} {ys : List β}
    (h : List.Forall₂ R xs ys) : Option.Rel R xs.getLast? ys.getLast? := by
  rw [← List.head?_reverse, ← List.head?_reverse]
  -- the last of a list is the first of it backwards, which the relation is told by
  have flipped := List.forall₂_reverse_iff.mpr h
  generalize xs.reverse = xs, ys.reverse = ys at flipped ⊢
  cases flipped with
  | nil => exact .none
  | cons first _ => exact .some first

namespace Node

/-- What is asked of a tree that nests at most `room` containers. -/
inductive Acceptable : Nat → Node → Prop
  | null {room : Nat} : Acceptable room .null
  | boolean {room : Nat} (value : Bool) : Acceptable room (.boolean value)
  | number {room : Nat} {numeral : Numeral} (finite : numeral.isFinite = true) :
      Acceptable room (.number numeral)
  | string {room : Nat} {body : Text} {text : String} (decodes : Text.decode? body = some text) :
      Acceptable room (.string body)
  | array {room : Nat} {items : List Node} (each : ∀ item ∈ items, Acceptable room item) :
      Acceptable (room + 1) (.array items)
  | object {room : Nat} {members : List (Text × Node)}
      (keys : ∀ member ∈ members, ∃ key, Text.decode? member.1 = some key)
      (each : ∀ member ∈ members, Acceptable room member.2) :
      Acceptable (room + 1) (.object members)

/-- The trees that stand under a key, in their order. -/
def under (members : List (Text × Node)) (key : String) : List Node :=
  (members.filter fun member => Text.decode? member.1 == some key).map Prod.snd

/-- The tree under a key that counts: the last one. -/
def effective (members : List (Text × Node)) (key : String) : Option Node :=
  (under members key).getLast?

theorem under_append (front back : List (Text × Node)) (key : String) :
    under (front ++ back) key = under front key ++ under back key := by
  rw [under, List.filter_append, List.map_append]
  rfl

theorem under_cons_of_eq {member : Text × Node} {key : String}
    (h : Text.decode? member.1 = some key) (members : List (Text × Node)) :
    under (member :: members) key = member.2 :: under members key := by
  have same : (Text.decode? member.1 == some key) = true := beq_iff_eq.mpr h
  simp only [under, List.filter_cons, same, if_true, List.map_cons]

theorem under_cons_of_ne {member : Text × Node} {key : String}
    (h : Text.decode? member.1 ≠ some key) (members : List (Text × Node)) :
    under (member :: members) key = under members key := by
  have other : (Text.decode? member.1 == some key) = false := beq_eq_false_iff_ne.mpr h
  simp only [under, List.filter_cons, other, Bool.false_eq_true, if_false]

/-- What stands under a key is the value of a member. -/
theorem exists_member_of_mem_under {members : List (Text × Node)} {key : String} {node : Node}
    (h : node ∈ under members key) : ∃ before text after,
      members = before ++ (text, node) :: after ∧ Text.decode? text = some key := by
  obtain ⟨⟨text, _⟩, mem, rfl⟩ := List.mem_map.mp h
  obtain ⟨mem, decodes⟩ := List.mem_filter.mp mem
  obtain ⟨before, after, split⟩ := List.append_of_mem mem
  exact ⟨before, text, after, split, beq_iff_eq.mp decodes⟩

/-- What belongs to members one by one belongs to what stands under a key. -/
theorem forall₂_under {β : Type} {R : Node → β → Prop} {members : List (Text × Node)}
    {entries : List (String × β)}
    (each : List.Forall₂ (fun member entry => Text.decode? member.1 = some entry.1 ∧
      R member.2 entry.2) members entries) (key : String) :
    List.Forall₂ R (under members key)
      ((entries.filter fun entry => entry.1 == key).map Prod.snd) := by
  induction each with
  | nil => exact .nil
  | @cons member entry members entries first _ ih =>
    obtain ⟨decodes, here⟩ := first
    -- a member is kept on both sides or on none, as its key is the same text
    by_cases same : entry.1 = key
    · rw [under_cons_of_eq (same ▸ decodes)]
      simp only [List.filter_cons, beq_iff_eq.mpr same, if_true, List.map_cons]
      exact .cons here ih
    · have other : Text.decode? member.1 ≠ some key := by
        rw [decodes]
        exact fun h => same (Option.some.inj h)
      rw [under_cons_of_ne other]
      simp only [List.filter_cons, beq_eq_false_iff_ne.mpr same, Bool.false_eq_true, if_false]
      exact ih

end Node

/-- A numeral is a natural number if it is nothing but digits, and 64 bits hold them. -/
theorem Numeral.natural?_eq_some_iff {numeral : Numeral} {n : Nat} :
    numeral.natural? = some n ↔ numeral.negative = false ∧ numeral.fraction = none ∧
      numeral.exponent = none ∧ natOfDigits numeral.whole = n ∧ n ≤ maxWord := by
  obtain ⟨negative, whole, fraction, exponent⟩ := numeral
  cases negative with
  | true => simp [natural?]
  | false => cases fraction with
    | some => simp [natural?]
    | none => cases exponent with
      | some => simp [natural?]
      | none =>
        simp only [natural?, Bool.false_or, Option.isSome_none, decide_eq_true_eq, true_and]
        by_cases large : maxWord < natOfDigits whole
        · rw [if_pos large]
          refine ⟨nofun, ?_⟩
          rintro ⟨rfl, fits⟩
          exact absurd fits (Nat.not_le.mpr large)
        · rw [if_neg large, Option.some.injEq]
          refine ⟨?_, And.left⟩
          rintro rfl
          exact ⟨rfl, Nat.not_lt.mp large⟩

namespace Value

/-- What a tree with a value means, case by case. -/
inductive Means : Nat → Node → Value → Prop
  | null {room : Nat} : Means room .null .null
  | boolean {room : Nat} (value : Bool) : Means room (.boolean value) (.boolean value)
  | number {room : Nat} {numeral : Numeral} (finite : numeral.isFinite = true) :
      Means room (.number numeral) (.number numeral.natural?)
  | string {room : Nat} {body : Text} {text : String} (decodes : Text.decode? body = some text) :
      Means room (.string body) (.string text)
  | array {room : Nat} {items : List Node} {values : List Value}
      (each : List.Forall₂ (fun item value => ofNode? room item = some value) items values) :
      Means (room + 1) (.array items) (.array values)
  | object {room : Nat} {members : List (Text × Node)} {entries : List (String × Value)}
      (each : List.Forall₂ (fun member entry => Text.decode? member.1 = some entry.1 ∧
        ofNode? room member.2 = some entry.2) members entries) :
      Means (room + 1) (.object members) (.object entries)

theorem ofNode?_eq_some_iff {room : Nat} {node : Node} {value : Value} :
    ofNode? room node = some value ↔ Means room node value := by
  constructor
  · intro h
    unfold ofNode? at h
    split at h
    · cases h; exact .null
    · cases h; exact .boolean _
    · split at h <;> cases h
      exact .number ‹_›
    · obtain ⟨text, decodes, rfl⟩ := Option.map_eq_some_iff.mp h
      exact .string decodes
    · cases h
    · cases h
    · obtain ⟨values, each, rfl⟩ := Option.map_eq_some_iff.mp h
      exact .array (mapM_eq_some_iff.mp each)
    · obtain ⟨entries, each, rfl⟩ := Option.map_eq_some_iff.mp h
      refine .object ((mapM_eq_some_iff.mp each).imp ?_)
      rintro ⟨text, node⟩ entry h
      obtain ⟨key, decodes, h⟩ := Option.bind_eq_some_iff.mp h
      obtain ⟨value, means, h⟩ := Option.bind_eq_some_iff.mp h
      obtain rfl := Option.some.inj h
      exact ⟨decodes, means⟩
  · intro h
    cases h with
    | null | boolean => rw [ofNode?]
    | number finite => rw [ofNode?, if_pos finite]
    | string decodes => rw [ofNode?, decodes, Option.map_some]
    | array each => rw [ofNode?, mapM_eq_some_iff.mpr each, Option.map_some]
    | object each =>
      rw [ofNode?]
      refine Option.map_eq_some_iff.mpr ⟨_, mapM_eq_some_iff.mpr (each.imp ?_), rfl⟩
      rintro ⟨text, node⟩ ⟨key, value⟩ ⟨decodes, means⟩
      dsimp only at decodes means ⊢
      rw [decodes, means]
      rfl

/-- **A tree has a value if and only if it is acceptable.** -/
theorem exists_ofNode?_iff {room : Nat} {node : Node} :
    (∃ value, ofNode? room node = some value) ↔ node.Acceptable room := by
  constructor
  · -- by induction on the tree: room is lost with each container
    rintro ⟨value, h⟩
    induction node using Node.induction generalizing room value with
    | null => exact .null
    | boolean flag => exact .boolean flag
    | number numeral =>
      cases ofNode?_eq_some_iff.mp h with
      | number finite => exact .number finite
    | string body =>
      cases ofNode?_eq_some_iff.mp h with
      | string decodes => exact .string decodes
    | array items ih =>
      cases ofNode?_eq_some_iff.mp h with
      | array each =>
        refine .array fun item mem => ?_
        obtain ⟨value, means⟩ := exists_forall₂_iff.mp ⟨_, each⟩ item mem
        exact ih item mem value means
    | object members ih =>
      cases ofNode?_eq_some_iff.mp h with
      | object each =>
        have has := exists_forall₂_iff.mp ⟨_, each⟩
        refine .object (fun member mem => ?_) fun member mem => ?_
        · obtain ⟨entry, decodes, -⟩ := has member mem
          exact ⟨entry.1, decodes⟩
        · obtain ⟨entry, -, means⟩ := has member mem
          exact ih member mem entry.2 means
  · -- by induction on why it is acceptable: the values of the parts make the value
    intro h
    induction h with
    | null => exact ⟨_, ofNode?_eq_some_iff.mpr .null⟩
    | boolean value => exact ⟨_, ofNode?_eq_some_iff.mpr (.boolean value)⟩
    | number finite => exact ⟨_, ofNode?_eq_some_iff.mpr (.number finite)⟩
    | string decodes => exact ⟨_, ofNode?_eq_some_iff.mpr (.string decodes)⟩
    | array _ ih =>
      obtain ⟨values, each⟩ := exists_forall₂_iff.mpr ih
      exact ⟨_, ofNode?_eq_some_iff.mpr (.array each)⟩
    | object keys _ ih =>
      obtain ⟨entries, each⟩ := exists_forall₂_iff.mpr fun member mem => by
        obtain ⟨key, decodes⟩ := keys member mem
        obtain ⟨value, means⟩ := ih member mem
        exact (⟨(key, value), decodes, means⟩ : ∃ entry : String × Value,
          Text.decode? member.1 = some entry.1 ∧ ofNode? _ member.2 = some entry.2)
      exact ⟨_, ofNode?_eq_some_iff.mpr (.object each)⟩

/-! ## Members of values -/

/-- **The member that counts** is the value of the last tree under the key. -/
theorem rel_get? {room : Nat} {value : Value} {members : List (Text × Node)}
    (h : ofNode? (room + 1) (.object members) = some value) (key : String) :
    Option.Rel (fun node value => ofNode? room node = some value)
      (Node.effective members key) (value.get? key) := by
  cases ofNode?_eq_some_iff.mp h with
  | object each =>
    rw [get?, ← List.head?_filter, List.filter_reverse, List.head?_reverse, ← List.getLast?_map]
    exact rel_getLast? (Node.forall₂_under each key)

end Value

end GitGateway.Json
