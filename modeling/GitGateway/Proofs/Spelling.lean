import GitGateway.Proofs.StatusForm

/-!
# How a status is spelled

The backend may spell one status in many ways, and none of them says anything else.

- `Json.ObjectText` and `Json.ArrayText`: the octets of an object with some members and of
  an array with some items, each of them a text that stays as it is;
- `Status.Spells`: the texts of a code, of a message and of details put together, in the
  order of an array or as members of an object among any others and in any order;
- `Status.read?_of_spells`: **the parts decide**. What a spelling is read as is told from the
  three texts alone, each read by itself;
- `Status.spelling_is_immaterial`: so two spellings are read alike, or neither is; a part that
  is left out is an empty one; and a part that is given twice is none at all.

Keys are told by their text. A member is another one if its key is read as another text,
however it is written, and of its value nothing is asked but the grammar.
-/

namespace GitGateway

namespace Json

/-- A text of some tree. -/
def IsValue (text : Bytes) : Prop :=
  ∃ node : Node, node.Written text

/-- The octets of a member: its key in any way of writing it, a colon and the text of its
value. -/
inductive MemberText : String × Bytes → Bytes → Prop
  | intro {body : Text} {name : String} {key value : Bytes}
      (written : (Node.string body).Written key) (decodes : Text.decode? body = some name) :
      MemberText (name, value) (key ++ 0x3A :: value)

/-- The octets of an object with these members, with any blanks. -/
inductive ObjectText (entries : List (String × Bytes)) : Bytes → Prop
  | intro {before inside after : Bytes} {texts : List Bytes} (leading : Token.Layout [] before)
      (inner : Token.Layout [] inside) (trailing : Token.Layout [] after)
      (each : List.Forall₂ MemberText entries texts) :
      ObjectText entries
        (before ++ 0x7B :: inside ++ [0x2C].intercalate texts ++ 0x7D :: after)

/-- The octets of an array with these items, with any blanks. -/
inductive ArrayText (items : List Bytes) : Bytes → Prop
  | intro {before inside after : Bytes} (leading : Token.Layout [] before)
      (inner : Token.Layout [] inside) (trailing : Token.Layout [] after) :
      ArrayText items (before ++ 0x5B :: inside ++ [0x2C].intercalate items ++ 0x5D :: after)

/-- The values under a key, in their order. -/
def textsAt (entries : List (String × Bytes)) (key : String) : List Bytes :=
  (entries.filter fun entry => entry.1 == key).map Prod.snd

/-- A container is laid out if what is inside is. -/
theorem layout_container {opens closes : Token} {first last : UInt8}
    (isOpen : Token.Written opens [first]) (isClose : Token.Written closes [last])
    {before inside text after : Bytes} {tokens : List Token} (leading : Token.Layout [] before)
    (inner : Token.Layout [] inside) (trailing : Token.Layout [] after)
    (content : Token.Layout tokens text) : Token.Layout (opens :: tokens ++ [closes])
      (before ++ first :: inside ++ text ++ last :: after) := by
  have opening : Token.Layout [opens] (before ++ first :: inside) :=
    leading.append (.token isOpen inner)
  have closing : Token.Layout [closes] (last :: after) := .token isClose trailing
  exact (opening.append content).append closing

/-- The members of an object are read one by one. -/
theorem exists_members {entries : List (String × Bytes)} {texts : List Bytes}
    (each : List.Forall₂ MemberText entries texts) (values : ∀ entry ∈ entries, IsValue entry.2) :
    ∃ members : List (Text × Node),
      List.Forall₂ (fun member entry => Text.decode? member.1 = some entry.1 ∧
        member.2.Written entry.2) members entries ∧
      List.Forall₂ Token.Layout (members.map tokensOfMember) texts := by
  induction each with
  | nil => exact ⟨[], .nil, .nil⟩
  | cons first _ ih =>
    obtain ⟨⟨node, here⟩, later⟩ := List.forall_mem_cons.mp values
    obtain ⟨members, named, laidOut⟩ := ih later
    cases first with
    | @intro body name key value written decodes =>
      rw [Node.Written, Node.tokens] at written
      exact ⟨(body, node) :: members, .cons ⟨decodes, here⟩ named,
        .cons (written.append (.token .colon here)) laidOut⟩

/-- **An object is read as its members.** -/
theorem ObjectText.exists_members {entries : List (String × Bytes)} {body : Bytes}
    (h : ObjectText entries body) (values : ∀ entry ∈ entries, IsValue entry.2) :
    ∃ members, (Node.object members).Written body ∧
      List.Forall₂ (fun member entry => Text.decode? member.1 = some entry.1 ∧
        member.2.Written entry.2) members entries := by
  cases h with
  | intro leading inner trailing each =>
    obtain ⟨members, named, laidOut⟩ := Json.exists_members each values
    refine ⟨members, ?_, named⟩
    rw [Node.Written, tokens_object]
    exact layout_container .openObject .closeObject leading inner trailing
      (Token.layout_intercalate laidOut)

/-- **An array is read as its items.** -/
theorem ArrayText.exists_items {items : List Bytes} {body : Bytes} (h : ArrayText items body)
    (values : ∀ item ∈ items, IsValue item) :
    ∃ nodes, (Node.array nodes).Written body ∧ List.Forall₂ Node.Written nodes items := by
  obtain ⟨nodes, each⟩ := exists_forall₂_iff.mpr values
  cases h with
  | intro leading inner trailing =>
    refine ⟨nodes, ?_, each.flip⟩
    rw [Node.Written, tokens_array]
    exact layout_container .openArray .closeArray leading inner trailing
      (layout_intercalate each.flip)

end Json

open Json (Node Value IsValue ObjectText ArrayText textsAt)

namespace Status

/-! ## Spellings -/

/-- A text spells the status of a code, a message and details, the latter two of which may
be left out: from the end of an array, and from anywhere in an object. -/
inductive Spells (code : Bytes) (message details : Option Bytes) : Bytes → Prop
  | object {entries : List (String × Bytes)} {body : Bytes} (written : ObjectText entries body)
      (values : ∀ entry ∈ entries, IsValue entry.2) (isCode : textsAt entries "code" = [code])
      (isMessage : textsAt entries "message" = message.toList)
      (isDetails : textsAt entries "details" = details.toList) : Spells code message details body
  | array {body : Bytes}
      (written : ArrayText (code :: (message.toList ++ details.toList)) body)
      (values : ∀ item ∈ code :: (message.toList ++ details.toList), IsValue item)
      (order : message = none → details = none) : Spells code message details body

/-- A message that is left out, or given as the empty text. -/
inductive NoMessage : Option Bytes → Prop
  | leftOut : NoMessage none
  | empty {text : Bytes} (written : (Node.string []).Written text) : NoMessage (some text)

/-- Details that are left out, or given as null or as an empty list. -/
inductive NoDetails : Option Bytes → Prop
  | leftOut : NoDetails none
  | null {text : Bytes} (written : Node.null.Written text) : NoDetails (some text)
  | empty {text : Bytes} (written : (Node.array []).Written text) : NoDetails (some text)

/-- The one text under a key, or none, is the one value under it, or none. -/
theorem once?_eq_bind_read? {nodes : List Node} {part : Option Bytes}
    (h : List.Forall₂ Node.Written nodes part.toList) :
    once? nodes = some (part.bind Node.read?) := by
  cases part with
  | none =>
    cases h
    rfl
  | some text =>
    cases h with
    | cons written rest =>
      cases rest
      rw [Option.bind_some, Node.read?_eq_some_iff.mpr written]
      rfl

/-- An object is read by its parts. -/
theorem ofNode?_object {members : List (Json.Text × Node)} {code message details : Option Node}
    (keys : ∀ member ∈ members, ∃ key, Json.Text.decode? member.1 = some key)
    (isCode : once? (Node.under members "code") = some code)
    (isMessage : once? (Node.under members "message") = some message)
    (isDetails : once? (Node.under members "details") = some details) :
    ofNode? (.object members) = ofParts? code message details := by
  refine Option.ext fun status => ?_
  rw [ofNode?_object_eq_some_iff, isCode, isMessage, isDetails]
  constructor
  · rintro ⟨-, _, _, _, ⟨⟩, ⟨⟩, ⟨⟩, read⟩
    exact read
  · intro read
    exact ⟨keys, code, message, details, rfl, rfl, rfl, read⟩

/-- **The parts decide.** A spelling is read as its three texts are, each by itself. -/
theorem read?_of_spells {code body : Bytes} {message details : Option Bytes}
    (h : Spells code message details body) :
    read? body = ofParts? (Node.read? code) (message.bind Node.read?)
      (details.bind Node.read?) := by
  cases h with
  | @object entries body written values isCode isMessage isDetails =>
    obtain ⟨members, whole, each⟩ := written.exists_members values
    have keys : ∀ member ∈ members, ∃ key, Json.Text.decode? member.1 = some key := by
      intro member mem
      obtain ⟨entry, decodes, -⟩ := Json.exists_forall₂_iff.mp ⟨entries, each⟩ member mem
      exact ⟨entry.1, decodes⟩
    have under : ∀ (key : String) (part : Option Bytes), textsAt entries key = part.toList →
        once? (Node.under members key) = some (part.bind Node.read?) := by
      intro key part same
      have written := Node.forall₂_under each key
      rw [← textsAt, same] at written
      exact once?_eq_bind_read? written
    rw [read?, Node.read?_eq_some_iff.mpr whole, Option.bind_some]
    exact ofNode?_object keys (under _ (some code) isCode) (under _ _ isMessage)
      (under _ _ isDetails)
  | array written values order =>
    obtain ⟨nodes, whole, each⟩ := written.exists_items values
    rw [read?, Node.read?_eq_some_iff.mpr whole, Option.bind_some]
    cases each with
    | @cons codeNode _ others _ isCode rest =>
      rw [Node.read?_eq_some_iff.mpr isCode]
      -- an array has one to three items, and the last of them are left out first
      cases message with
      | none =>
        obtain rfl := order rfl
        cases rest
        rfl
      | some message =>
        cases rest with
        | cons isMessage rest =>
          rw [Option.bind_some, Node.read?_eq_some_iff.mpr isMessage]
          cases details with
          | none =>
            cases rest
            rfl
          | some details =>
            cases rest with
            | cons isDetails rest =>
              cases rest
              rw [Option.bind_some, Node.read?_eq_some_iff.mpr isDetails]
              rfl

/-! ## Parts that are left out -/

theorem NoMessage.elim_eq {message : Option Bytes} (h : NoMessage message) :
    (message.bind Node.read?).elim (some "") messageOf? = some "" := by
  cases h with
  | leftOut => rfl
  | empty written =>
    rw [Option.bind_some, Node.read?_eq_some_iff.mpr written]
    decide +kernel

theorem NoDetails.elim_eq {details : Option Bytes} (h : NoDetails details) :
    (details.bind Node.read?).elim (some []) detailsOf? = some [] := by
  cases h with
  | leftOut => rfl
  | null written =>
    rw [Option.bind_some, Node.read?_eq_some_iff.mpr written]
    rfl
  | empty written =>
    rw [Option.bind_some, Node.read?_eq_some_iff.mpr written]
    rfl

/-- Parts that say the same make the same status. -/
theorem ofParts?_congr {code message message' details details' : Option Node}
    (sameMessage : message.elim (some "") messageOf? = message'.elim (some "") messageOf?)
    (sameDetails : details.elim (some []) detailsOf? = details'.elim (some []) detailsOf?) :
    ofParts? code message details = ofParts? code message' details' := by
  refine Option.ext fun status => ?_
  rw [ofParts?_eq_some_iff, ofParts?_eq_some_iff, sameMessage, sameDetails]

/-! ## Parts that are given twice -/

theorem length_le_of_once? {nodes : List Node} {found : Option Node}
    (h : once? nodes = some found) : nodes.length ≤ 1 := by
  unfold once? at h
  split at h
  · exact Nat.zero_le 1
  · exact Nat.le_refl 1
  · cases h

/-- An object in which one of the names stands twice is not read. -/
theorem read?_of_twice {entries : List (String × Bytes)} {body : Bytes} {name : String}
    (written : ObjectText entries body) (values : ∀ entry ∈ entries, IsValue entry.2)
    (known : name ∈ ["code", "message", "details"])
    (twice : 2 ≤ (textsAt entries name).length) : read? body = none := by
  obtain ⟨members, whole, each⟩ := written.exists_members values
  have several : 2 ≤ (Node.under members name).length := by
    rw [(Node.forall₂_under each name).length_eq]
    exact twice
  rw [read?, Node.read?_eq_some_iff.mpr whole, Option.bind_some]
  cases read : ofNode? (.object members) with
  | none => rfl
  | some status =>
    obtain ⟨-, code, message, details, isCode, isMessage, isDetails, -⟩ :=
      ofNode?_object_eq_some_iff.mp read
    have single : (Node.under members name).length ≤ 1 := by
      simp only [List.mem_cons, List.not_mem_nil, or_false] at known
      rcases known with rfl | rfl | rfl
      · exact length_le_of_once? isCode
      · exact length_le_of_once? isMessage
      · exact length_le_of_once? isDetails
    omega

/-- **How a status is spelled makes no difference.**

- Two spellings of one code are read as the same status, or neither of them is, if they give
  the same message and the same details or give none: the order of the members, those in
  between, the blanks, the way the keys are written and the choice of an array or an object
  play no part.
- An object in which one of the three is given twice is not read at all. -/
theorem spelling_is_immaterial :
    (∀ (code body body' : Bytes) (message message' details details' : Option Bytes),
      Spells code message details body → Spells code message' details' body' →
      message = message' ∨ NoMessage message ∧ NoMessage message' →
      details = details' ∨ NoDetails details ∧ NoDetails details' →
      read? body = read? body') ∧
    ∀ (entries : List (String × Bytes)) (body : Bytes) (name : String),
      ObjectText entries body → (∀ entry ∈ entries, IsValue entry.2) →
      name ∈ ["code", "message", "details"] → 2 ≤ (textsAt entries name).length →
      read? body = none := by
  constructor
  · intro code body body' message message' details details' spelled spelled' sameMessage
      sameDetails
    rw [read?_of_spells spelled, read?_of_spells spelled']
    refine ofParts?_congr ?_ ?_
    · rcases sameMessage with rfl | ⟨none, none'⟩
      · rfl
      · rw [none.elim_eq, none'.elim_eq]
    · rcases sameDetails with rfl | ⟨none, none'⟩
      · rfl
      · rw [none.elim_eq, none'.elim_eq]
  · intro entries body name written values known twice
    exact read?_of_twice written values known twice

/-- An array, and an object that leaves two parts out and has an escape in its key, among
members that hold what no status may hold; and an object with two codes. -/
theorem array_and_object_agree :
    let code := Utf8.encode "\"ABORTED\""
    let empty := Utf8.encode " \"\""
    let null := Utf8.encode "null "
    let large := Utf8.encode "1e999"
    let array := Utf8.encode "[\"ABORTED\", \"\",null ]"
    let object :=
      Utf8.encode "\x7b\"x\":1e999,\"\\u0063ode\":\"ABORTED\",\"x\":\"\\ud800\"\x7d\n"
    let double := Utf8.encode ("\x7b\"x\":\"ABORTED\",\"\\u0063ode\":1e999," ++
      "\"\\u0063ode\":\"ABORTED\"\x7d")
    Spells code (some empty) (some null) array ∧ Spells code none none object ∧
      NoMessage (some empty) ∧ NoDetails (some null) ∧
      read? array = some ⟨.aborted, "", []⟩ ∧ read? object = some ⟨.aborted, "", []⟩ ∧
      ObjectText [("x", code), ("code", large), ("code", code)] double ∧
      (∀ entry ∈ [("x", code), ("code", large), ("code", code)], IsValue entry.2) ∧
      read? double = none := by
  intro code empty null large array object double
  have isCode : IsValue code :=
    ⟨.string ((Utf8.encode "ABORTED").map .octet), Json.Token.layout_of_scan (by decide +kernel)⟩
  have isEmpty : (Node.string []).Written empty := Json.Token.layout_of_scan (by decide +kernel)
  have isNull : Node.null.Written null := Json.Token.layout_of_scan (by decide +kernel)
  have isLarge : IsValue large :=
    ⟨.number ⟨false, [1], none, some (false, [9, 9, 9])⟩,
      Json.Token.layout_of_scan (by decide +kernel)⟩
  let half := Utf8.encode "\"\\ud800\""
  have isHalf : IsValue half :=
    ⟨.string [.unit 0xD800], Json.Token.layout_of_scan (by decide +kernel)⟩
  let x := Utf8.encode "\"x\""
  let key := Utf8.encode "\"\\u0063ode\""
  have other : ∀ value, Json.MemberText ("x", value) (x ++ 0x3A :: value) := fun value =>
    @Json.MemberText.intro [.octet 0x78] _ _ _
      (Json.Token.layout_of_scan (by decide +kernel)) (by decide +kernel)
  have named : ∀ value, Json.MemberText ("code", value) (key ++ 0x3A :: value) := fun value =>
    @Json.MemberText.intro (.unit 0x63 :: (Utf8.encode "ode").map .octet) _ _ _
      (Json.Token.layout_of_scan (by decide +kernel)) (by decide +kernel)
  have arrayText : ArrayText [code, empty, null] array := by
    have whole : array = [] ++ 0x5B :: [] ++ [0x2C].intercalate [code, empty, null] ++ [0x5D] := by
      decide +kernel
    rw [whole]
    exact .intro .done .done .done
  have objectText : ObjectText [("x", large), ("code", code), ("x", half)] object := by
    have whole : object = [] ++ 0x7B :: [] ++ [0x2C].intercalate [x ++ 0x3A :: large,
        key ++ 0x3A :: code, x ++ 0x3A :: half] ++ 0x7D :: [0x0A] := by
      decide +kernel
    rw [whole]
    exact .intro .done .done (.blank rfl .done)
      (.cons (other _) (.cons (named _) (.cons (other _) .nil)))
  have doubleText : ObjectText [("x", code), ("code", large), ("code", code)] double := by
    have whole : double = [] ++ 0x7B :: [] ++ [0x2C].intercalate [x ++ 0x3A :: code,
        key ++ 0x3A :: large, key ++ 0x3A :: code] ++ [0x7D] := by
      decide +kernel
    rw [whole]
    exact .intro .done .done .done (.cons (other _) (.cons (named _) (.cons (named _) .nil)))
  have ofArray : Spells code (some empty) (some null) array := by
    refine .array arrayText ?_ nofun
    simp only [Option.toList_some, List.cons_append, List.nil_append, List.forall_mem_cons]
    exact ⟨isCode, ⟨_, isEmpty⟩, ⟨_, isNull⟩, List.forall_mem_nil _⟩
  have ofObject : Spells code none none object := by
    refine .object objectText ?_ rfl rfl rfl
    simp only [List.forall_mem_cons]
    exact ⟨isLarge, isCode, isHalf, List.forall_mem_nil _⟩
  have values : ∀ entry ∈ [("x", code), ("code", large), ("code", code)], IsValue entry.2 := by
    simp only [List.forall_mem_cons]
    exact ⟨isCode, isLarge, isCode, List.forall_mem_nil _⟩
  have read : read? array = some ⟨.aborted, "", []⟩ := by
    decide +kernel
  have same := spelling_is_immaterial.1 _ _ _ _ _ _ _ ofArray ofObject
    (.inr ⟨.empty isEmpty, .leftOut⟩) (.inr ⟨.null isNull, .leftOut⟩)
  exact ⟨ofArray, ofObject, .empty isEmpty, .null isNull, read, same ▸ read, doubleText, values,
    spelling_is_immaterial.2 _ _ "code" doubleText values (by decide) (by decide)⟩

end Status

end GitGateway
