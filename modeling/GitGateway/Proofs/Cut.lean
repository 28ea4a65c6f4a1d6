import GitGateway.Proofs.Notice

/-!
# Cutting an ID

What is shown of a correlation ID of any length, in characters and in octets.

- `CorrelationId.cutPlace?`: the octet at which an ID is cut, found by counting characters;
- `CorrelationId.isValid_cutPlace`: that octet is the first of a character, so **no character is
  cut in two**, whatever mix of one to four octets stands in front of it;
- `CorrelationId.take_bounded`: what is shown begins with the same 48 characters as the ID. From
  this and the length of what is shown all comparisons follow, also that cutting what was cut
  leaves it as it is, although that is longer than 48 characters;
- `CorrelationId.cuts_between_characters`: the statement about all IDs.

A cut ID is *not* told from an ID that its client sent with the mark on it: both are shown alike.
-/

namespace GitGateway

/-- The octets of a text are as many as its size. -/
theorem Utf8.length_encode (text : String) : (encode text).length = text.utf8ByteSize := by
  have octets : (encode text).toByteArray = text.toByteArray := String.utf8Encode_toList
  rw [← String.size_toByteArray, ← octets, List.size_toByteArray]

namespace CorrelationId

/-! ## The place of the cut -/

/-- The characters of a text, each with the place of its first octet. -/
def placesFrom (start : Nat) : List Char → List (Nat × Char)
  | [] => []
  | c :: rest => (start, c) :: placesFrom (start + c.utf8Size) rest

/-- The place at which an ID is cut: that of the first character that is not shown, if there
is one. -/
def cutPlace? (id : String) : Option Nat :=
  (placesFrom 0 id.toList)[maxShown]?.map Prod.fst

/-- The characters of an ID that are shown at most. -/
def kept (id : String) : String :=
  String.ofList (id.toList.take maxShown)

/-- The characters of an ID that are not shown. -/
def dropped (id : String) : String :=
  String.ofList (id.toList.drop maxShown)

theorem kept_append_dropped (id : String) : kept id ++ dropped id = id := by
  rw [kept, dropped, ← String.ofList_append, List.take_append_drop, String.ofList_toList]

@[simp] theorem toList_kept (id : String) : (kept id).toList = id.toList.take maxShown :=
  String.toList_ofList

/-- A character stands behind the octets of those before it. -/
theorem getElem?_placesFrom (start : Nat) (chars : List Char) (index : Nat) :
    (placesFrom start chars)[index]? = chars[index]?.map fun c =>
      (start + ((chars.take index).flatMap String.utf8EncodeChar).length, c) := by
  induction chars generalizing start index with
  | nil => rfl
  | cons c chars ih =>
    cases index with
    | zero => rfl
    | succ index =>
      rw [placesFrom, List.getElem?_cons_succ, ih, List.getElem?_cons_succ, List.take_succ_cons,
        List.flatMap_cons, List.length_append, String.length_utf8EncodeChar, Nat.add_assoc]

theorem cutPlace?_eq (id : String) :
    cutPlace? id = id.toList[maxShown]?.map fun _ => (Utf8.encode (kept id)).length := by
  rw [cutPlace?, getElem?_placesFrom, Option.map_map, Utf8.encode, toList_kept]
  simp only [Nat.zero_add]
  rfl

/-- An ID that is shown in full has no such place. -/
theorem cutPlace?_of_short {id : String} (short : id.length ≤ maxShown) : cutPlace? id = none := by
  have absent : id.toList[maxShown]? = none := by
    rw [List.getElem?_eq_none_iff, String.length_toList]
    exact short
  rw [cutPlace?_eq, absent]
  rfl

/-- Any other ID is cut behind the octets of what is shown of it. -/
theorem cutPlace?_of_long {id : String} (long : maxShown < id.length) :
    cutPlace? id = some (Utf8.encode (kept id)).length := by
  have inside : maxShown < id.toList.length := by
    rw [String.length_toList]
    exact long
  rw [cutPlace?_eq, List.getElem?_eq_getElem inside]
  rfl

/-- **No character is cut in two.** -/
theorem isValid_cutPlace {id : String} {cut : Nat} (found : cutPlace? id = some cut) :
    String.Pos.Raw.IsValid id ⟨cut⟩ := by
  rw [cutPlace?_eq, Option.map_eq_some_iff] at found
  obtain ⟨_, -, rfl⟩ := found
  refine String.Pos.Raw.isValid_iff_exists_append.mpr
    ⟨kept id, dropped id, (kept_append_dropped id).symm, ?_⟩
  rw [Utf8.length_encode]
  rfl

/-- The octets in front of the cut are those of what is shown. -/
theorem take_encode_kept (id : String) :
    (Utf8.encode id).take (Utf8.encode (kept id)).length = Utf8.encode (kept id) := by
  have octets : Utf8.encode id = Utf8.encode (kept id) ++ Utf8.encode (dropped id) := by
    rw [← Utf8.encode_append, kept_append_dropped]
  rw [octets, List.take_left]

/-! ## What is shown -/

/-- Short IDs are shown as they are. -/
theorem bounded_of_short {id : String} (short : id.length ≤ maxShown) : bounded id = id := by
  have nothing : id.toList.drop maxShown = [] := by
    rw [List.drop_eq_nil_iff, String.length_toList]
    exact short
  rw [bounded, nothing]
  rfl

/-- Long IDs are cut and marked. -/
theorem bounded_of_long {id : String} (long : maxShown < id.length) :
    bounded id = kept id ++ cutMark := by
  have something : (id.toList.drop maxShown).isEmpty = false := by
    rw [List.isEmpty_eq_false_iff, ne_eq, List.drop_eq_nil_iff, String.length_toList]
    omega
  rw [bounded, something]
  rfl

theorem length_kept {id : String} (long : maxShown < id.length) :
    (kept id).length = maxShown := by
  rw [← String.length_toList, toList_kept, List.length_take, String.length_toList]
  omega

/-- Of a text of 48 characters all is kept, and nothing of what is put behind it. -/
theorem kept_append {text : String} (full : text.length = maxShown) (more : String) :
    kept (text ++ more) = text := by
  have begins : (text ++ more).toList.take maxShown = text.toList := by
    rw [String.toList_append]
    refine List.take_left' ?_
    rw [String.length_toList, full]
  rw [kept, begins, String.ofList_toList]

/-- What is shown of a long ID is itself longer than what may be shown. -/
theorem length_bounded_of_long {id : String} (long : maxShown < id.length) :
    (bounded id).length = 60 := by
  have mark : cutMark.length = 12 := by decide
  rw [bounded_of_long long, String.length_append, length_kept long, mark, maxShown]

/-- **What is shown begins like the ID.** -/
theorem kept_bounded (id : String) : kept (bounded id) = kept id := by
  by_cases long : maxShown < id.length
  · rw [bounded_of_long long]
    exact kept_append (length_kept long) cutMark
  · rw [bounded_of_short (Nat.le_of_not_lt long)]

/-- **What was cut is not cut further.** It is over the limit and is cut again, at the same
place and with the same mark. -/
theorem bounded_bounded (id : String) : bounded (bounded id) = bounded id := by
  by_cases long : maxShown < id.length
  · have again : maxShown < (bounded id).length := by
      rw [length_bounded_of_long long, maxShown]
      omega
    rw [bounded_of_long again, kept_bounded, bounded_of_long long]
  · rw [bounded_of_short (Nat.le_of_not_lt long)]
    exact bounded_of_short (Nat.le_of_not_lt long)

/-- **The IDs that are shown as they are**: short ones, and those that look cut. -/
theorem bounded_eq_self_iff (id : String) : bounded id = id ↔
    id.length ≤ maxShown ∨ ∃ text, text.length = maxShown ∧ id = text ++ cutMark := by
  constructor
  · intro same
    by_cases long : maxShown < id.length
    · right
      refine ⟨kept id, length_kept long, ?_⟩
      rw [← bounded_of_long long, same]
    · exact .inl (Nat.le_of_not_lt long)
  · rintro (short | ⟨text, full, rfl⟩)
    · exact bounded_of_short short
    · have mark : cutMark.length = 12 := by decide
      have long : maxShown < (text ++ cutMark).length := by
        rw [String.length_append, full, mark]
        omega
      rw [bounded_of_long long, kept_append full]

/-- A cut ID is longer than any that is shown in full. -/
theorem bounded_ne_bounded {id other : String} (long : maxShown < id.length)
    (short : other.length ≤ maxShown) : bounded id ≠ bounded other := by
  intro same
  have lengths := congrArg String.length same
  rw [length_bounded_of_long long, bounded_of_short short] at lengths
  rw [maxShown] at short
  omega

/-- **Two long IDs are shown alike** exactly when they begin alike. -/
theorem bounded_eq_bounded_iff {id other : String} (long : maxShown < id.length)
    (long' : maxShown < other.length) :
    bounded id = bounded other ↔ id.toList.take maxShown = other.toList.take maxShown := by
  rw [bounded_of_long long, bounded_of_long long', String.append_left_inj, ← String.toList_inj,
    toList_kept, toList_kept]

/-- **How an ID is cut.**

- One of at most 48 characters is shown as it is. Any other is cut behind its 48th character,
  at an octet at which a character begins, and marked.
- What is shown is shown as it is, and so is nothing else but short IDs and those of 48
  characters with the mark behind them.
- A cut ID is shown like none that is not cut, and like another one exactly when the first 48
  characters of both are the same. -/
theorem cuts_between_characters (id : String) :
    (id.length ≤ 48 → cutPlace? id = none ∧ bounded id = id) ∧
    (48 < id.length → ∃ cut text more, cutPlace? id = some cut ∧
      String.Pos.Raw.IsValid id ⟨cut⟩ ∧ (Utf8.encode id).take cut = Utf8.encode text ∧
      id = text ++ more ∧ text.length = 48 ∧ bounded id = text ++ " (truncated)") ∧
    bounded (bounded id) = bounded id ∧
    (bounded id = id ↔
      id.length ≤ 48 ∨ ∃ text, text.length = 48 ∧ id = text ++ " (truncated)") ∧
    (∀ other, 48 < id.length → other.length ≤ 48 → bounded id ≠ bounded other) ∧
    (∀ other, 48 < id.length → 48 < other.length →
      (bounded id = bounded other ↔ id.toList.take 48 = other.toList.take 48)) := by
  refine ⟨?short, ?long, bounded_bounded id, bounded_eq_self_iff id, ?apart, ?alike⟩
  case short =>
    intro short
    exact ⟨cutPlace?_of_short short, bounded_of_short short⟩
  case long =>
    intro long
    have place := cutPlace?_of_long long
    exact ⟨_, kept id, dropped id, place, isValid_cutPlace place, take_encode_kept id,
      (kept_append_dropped id).symm, length_kept long, bounded_of_long long⟩
  case apart =>
    intro other long short
    exact bounded_ne_bounded long short
  case alike =>
    intro other long long'
    exact bounded_eq_bounded_iff long long'

/-- Two IDs whose 48th character takes four octets. They differ behind it, in length and in
their octets, and are shown alike. -/
theorem wide_ids_are_shown_alike :
    let text := String.ofList (List.replicate 47 'a' ++ ['𝄞'])
    let id := text ++ "é"
    let other := text ++ "xyz"
    48 < id.length ∧ 48 < other.length ∧ (bounded id).length = 60 ∧ cutPlace? id = some 51 ∧
      String.Pos.Raw.IsValid id ⟨51⟩ ∧ bounded id = text ++ " (truncated)" ∧
      bounded id = bounded other := by
  intro text id other
  have full : text.length = 48 := by decide
  have long : 48 < id.length := by decide
  have long' : 48 < other.length := by decide
  have place : cutPlace? id = some 51 := by decide
  obtain ⟨-, cuts, -, -, -, alike⟩ := cuts_between_characters id
  obtain ⟨cut, begins, more, found, valid, -, spelled, full', shown⟩ := cuts long
  obtain rfl : cut = 51 := Option.some.inj (found.symm.trans place)
  have same : begins = text := by
    rw [← kept_append full' more, ← spelled]
    exact kept_append full "é"
  rw [same] at shown
  have begin_alike : id.toList.take 48 = other.toList.take 48 := by decide
  exact ⟨long, long', length_bounded_of_long long, found, valid, shown,
    (alike other long long').mpr begin_alike⟩

end CorrelationId

end GitGateway
