import GitGateway.Proofs.Json.Meaning
import GitGateway.Status.Reading

/-!
# What a status object says

A reference for the reader of statuses, over every object of the form that the backend
sends: a code, perhaps a message, and a list of details that are any values at all.

- `Detail.IsLimit`: a value that says that a limit was reached. Its type alone counts;
- `Detail.Told`: what a value tells, with what it says of the message and of the wait;
- `Status.Form`: the form of the object;
- `Status.form_is_read`: **an object of that form is read as what it says**, one detail
  for each value and in their order. No value that is acceptable is in the way of the others.

The object may hold any other members, of which nothing but a readable key is asked.
-/

namespace GitGateway

open Json (Node Value)

namespace Code

/-- A code may as well be looked for by its name. -/
theorem ofName_eq_find (name : String) :
    ofName name = (all.find? fun code => code.name == name).getD .unknown := by
  simp only [ofName, spelling_eq_name]

/-- A name is read as its code: no two codes have the same. -/
theorem ofName_name (code : Code) : ofName code.name = code := by
  rw [ofName_eq_find]
  cases code <;> decide

/-- Any other text is read as no known code. -/
theorem ofName_eq_unknown {name : String} (h : ∀ code : Code, code.name ≠ name) :
    ofName name = .unknown := by
  have absent : (all.find? fun code => code.name == name) = none :=
    List.find?_eq_none.mpr fun code _ same => h code (beq_iff_eq.mp same)
  rw [ofName_eq_find, absent, Option.getD_none]

end Code

namespace Detail

/-- A value says that a limit was reached if it is an object of that type, whatever else
it holds. -/
inductive IsLimit : Node → Prop
  | object {members : List (Json.Text × Node)} {body : Json.Text}
      (type : Node.effective members "@type" = some (.string body))
      (limit : Json.Text.decode? body = some limitType) : IsLimit (.object members)

/-- The message that a member holds: a string, else nothing. -/
inductive MessageOf : Option Node → String → Prop
  | text {body : Json.Text} {text : String} (decodes : Json.Text.decode? body = some text) :
      MessageOf (some (.string body)) text
  | empty {member : Option Node} (other : ∀ body, member ≠ some (.string body)) :
      MessageOf member ""

/-- The wait that a member holds: plain digits that 64 bits hold, else none. -/
inductive WaitOf : Option Node → Nat → Prop
  | natural {digits : List Nat} (fits : Json.natOfDigits digits < Nat.pow 2 64) :
      WaitOf (some (.number ⟨false, digits, none, none⟩)) (Json.natOfDigits digits)
  | zero {member : Option Node}
      (other : ∀ digits, member = some (.number ⟨false, digits, none, none⟩) →
        Nat.pow 2 64 ≤ Json.natOfDigits digits) : WaitOf member 0

/-- What a value tells. -/
inductive Told : Node → Detail → Prop
  | limit {members : List (Json.Text × Node)} {text : String} {wait : Nat}
      (limit : IsLimit (.object members))
      (message : MessageOf (Node.effective members "error_message") text)
      (retry : WaitOf (Node.effective members "retry_after_secs") wait) :
      Told (.object members) (.limitReached text wait)
  | other {node : Node} (other : ¬ IsLimit node) : Told node .other

/-- Only a value that says so tells of a limit. -/
theorem Told.isLimit_iff {node : Node} {detail : Detail} (h : Told node detail) :
    detail.isLimit = true ↔ IsLimit node := by
  cases h with
  | limit limit => exact ⟨fun _ => limit, fun _ => rfl⟩
  | other other => exact ⟨nofun, fun limit => absurd limit other⟩

theorem any_isLimit_iff {items : List Node} {details : List Detail}
    (h : List.Forall₂ Told items details) :
    details.any isLimit = true ↔ ∃ item ∈ items, IsLimit item := by
  induction h with
  | nil => simp
  | cons first _ ih =>
    rw [List.any_cons, Bool.or_eq_true, ih, first.isLimit_iff, List.exists_mem_cons_iff]

section Member

variable {room : Nat} {member : Option Node} {value : Option Value}

/-- The text of a member is that of a string. -/
theorem bind_text?_eq_some_iff
    (h : Option.Rel (fun node value => Value.ofNode? room node = some value) member value)
    {text : String} : value.bind Value.text? = some text ↔
      ∃ body, member = some (.string body) ∧ Json.Text.decode? body = some text := by
  cases h with
  | none => simp
  | some means => cases Value.ofNode?_eq_some_iff.mp means with
    | string decodes => simp [Value.text?, decodes]
    | _ => simp [Value.text?]

theorem messageOf_of_rel
    (h : Option.Rel (fun node value => Value.ofNode? room node = some value) member value) :
    MessageOf member ((value.bind Value.text?).getD "") := by
  cases h with
  | none => exact .empty nofun
  | some means => cases Value.ofNode?_eq_some_iff.mp means with
    | string decodes => exact .text decodes
    | _ => exact .empty nofun

theorem waitOf_of_rel
    (h : Option.Rel (fun node value => Value.ofNode? room node = some value) member value) :
    WaitOf member ((value.bind Value.natural?).getD 0) := by
  cases h with
  | none => exact .zero nofun
  | some means => cases Value.ofNode?_eq_some_iff.mp means with
    | @number _ numeral _ =>
      show WaitOf _ (numeral.natural?.getD 0)
      cases wait : numeral.natural? with
      | some n =>
        obtain ⟨negative, whole, fraction, exponent⟩ := numeral
        obtain ⟨rfl, rfl, rfl, rfl, fits⟩ := Json.Numeral.natural?_eq_some_iff.mp wait
        exact .natural (Nat.lt_succ_of_le fits)
      | none =>
        -- plain digits that fit would have been read
        refine .zero fun digits same => Nat.le_of_not_lt fun fits => ?_
        obtain rfl := Node.number.inj (Option.some.inj same)
        have within : Json.natOfDigits digits ≤ Json.Numeral.maxWord := Nat.le_of_lt_succ fits
        have holds : (⟨false, digits, none, none⟩ : Json.Numeral).natural? =
            some (Json.natOfDigits digits) :=
          Json.Numeral.natural?_eq_some_iff.mpr ⟨rfl, rfl, rfl, rfl, within⟩
        rw [wait] at holds
        cases holds
    | _ => exact .zero nofun

end Member

/-- **A value is told as it says.** -/
theorem told_ofValue {room : Nat} {node : Node} {value : Value}
    (h : Value.ofNode? room node = some value) : Told node (ofValue value) := by
  unfold ofValue
  cases Value.ofNode?_eq_some_iff.mp h with
  | object =>
    -- the three members that are asked for are those that count in the tree
    have rel := Value.rel_get? h
    split
    · rename_i limit
      obtain ⟨body, type, limit⟩ := (bind_text?_eq_some_iff (rel _)).mp limit
      exact .limit (.object type limit) (messageOf_of_rel (rel _)) (waitOf_of_rel (rel _))
    · rename_i limit
      refine .other ?_
      rintro ⟨type, named⟩
      exact limit ((bind_text?_eq_some_iff (rel _)).mpr ⟨_, type, named⟩)
  | _ => exact .other nofun

end Detail

namespace Status

/-- An object of the form that the backend sends: a code, a message or none, and a list of
details. -/
structure Form (members : List (Json.Text × Node)) (name text : String) (items : List Node) :
    Prop where
  /-- Every key can be read. -/
  keys : ∀ member ∈ members, ∃ key, Json.Text.decode? member.1 = some key
  code : ∃ body, Node.under members "code" = [.string body] ∧ Json.Text.decode? body = some name
  message : (Node.under members "message" = [] ∧ text = "") ∨
    ∃ body, Node.under members "message" = [.string body] ∧ Json.Text.decode? body = some text
  details : Node.under members "details" = [.array items]

/-- The only value, if there is no second one. -/
def once? : List Node → Option (Option Node)
  | [] => some none
  | [node] => some (some node)
  | _ => none

/-- The members with their keys as text. -/
def named? (members : List (Json.Text × Node)) : Option (List (String × Node)) :=
  members.mapM fun (key, node) => (Json.Text.decode? key).map (·, node)

theorem named?_eq_some_iff {members : List (Json.Text × Node)} {named : List (String × Node)} :
    named? members = some named ↔ List.Forall₂ (fun member entry =>
      Json.Text.decode? member.1 = some entry.1 ∧ member.2 = entry.2) members named := by
  rw [named?, Json.mapM_eq_some_iff]
  refine ⟨fun h => h.imp ?_, fun h => h.imp ?_⟩
  · rintro ⟨key, node⟩ entry h
    obtain ⟨text, decodes, rfl⟩ := Option.map_eq_some_iff.mp h
    exact ⟨decodes, rfl⟩
  · rintro ⟨key, node⟩ ⟨text, same⟩ ⟨decodes, rfl⟩
    exact Option.map_eq_some_iff.mpr ⟨text, decodes, rfl⟩

/-- Every key of an object that is read has a text. -/
theorem exists_named?_iff {members : List (Json.Text × Node)} :
    (∃ named, named? members = some named) ↔
      ∀ member ∈ members, ∃ key, Json.Text.decode? member.1 = some key := by
  simp only [named?_eq_some_iff, Json.exists_forall₂_iff]
  refine forall₂_congr fun member _ => ⟨?_, ?_⟩
  · rintro ⟨entry, decodes, -⟩
    exact ⟨entry.1, decodes⟩
  · rintro ⟨key, decodes⟩
    exact ⟨(key, member.2), decodes, rfl⟩

theorem valuesOf_eq_under {members : List (Json.Text × Node)} {named : List (String × Node)}
    (h : named? members = some named) (key : String) :
    valuesOf named key = Node.under members key := by
  have same := Node.forall₂_under (R := Eq) (named?_eq_some_iff.mp h) key
  rw [List.forall₂_eq_eq_eq] at same
  exact same.symm

/-- A status has its parts from the three of them, and those that are missing are empty. -/
theorem ofParts?_eq_some_iff {code message details : Option Node} {status : Status} :
    ofParts? code message details = some status ↔
      code.bind Code.ofNode? = some status.code ∧
      message.elim (some "") messageOf? = some status.message ∧
      details.elim (some []) detailsOf? = some status.details := by
  obtain ⟨c, m, d⟩ := status
  have parts : ofParts? code message details =
      (code.bind Code.ofNode?).bind fun code =>
      (message.elim (some "") messageOf?).bind fun message =>
      (details.elim (some []) detailsOf?).bind fun details => some ⟨code, message, details⟩ := by
    cases message <;> cases details <;> rfl
  simp only [parts, Option.bind_eq_some_iff, Option.some.injEq, Status.mk.injEq]
  constructor
  · rintro ⟨_, code, _, message, _, details, rfl, rfl, rfl⟩
    exact ⟨code, message, details⟩
  · rintro ⟨code, message, details⟩
    exact ⟨_, code, _, message, _, details, rfl, rfl, rfl⟩

/-- An object is read by what stands under its keys, if all of them can be read. -/
theorem ofNode?_object_eq_some_iff {members : List (Json.Text × Node)} {status : Status} :
    ofNode? (.object members) = some status ↔
      (∀ member ∈ members, ∃ key, Json.Text.decode? member.1 = some key) ∧
      ∃ code message details, once? (Node.under members "code") = some code ∧
        once? (Node.under members "message") = some message ∧
        once? (Node.under members "details") = some details ∧
        ofParts? code message details = some status := by
  have parts : ofNode? (.object members) = (named? members).bind fun named =>
      (once? (valuesOf named "code")).bind fun code =>
      (once? (valuesOf named "message")).bind fun message =>
      (once? (valuesOf named "details")).bind fun details => ofParts? code message details := rfl
  simp only [parts, Option.bind_eq_some_iff, ← exists_named?_iff]
  constructor
  · rintro ⟨named, names, code, isCode, message, isMessage, details, isDetails, read⟩
    simp only [valuesOf_eq_under names] at isCode isMessage isDetails
    exact ⟨⟨named, names⟩, code, message, details, isCode, isMessage, isDetails, read⟩
  · rintro ⟨⟨named, names⟩, code, message, details, isCode, isMessage, isDetails, read⟩
    simp only [← valuesOf_eq_under names] at isCode isMessage isDetails
    exact ⟨named, names, code, isCode, message, isMessage, details, isDetails, read⟩

/-- The details are read one by one. -/
theorem detailsOf?_eq_some_iff {items : List Node} {details : List Detail} :
    detailsOf? (.array items) = some details ↔
      List.Forall₂ (fun item detail => ∃ value, Value.ofNode? (maxDepth - 2) item = some value ∧
        Detail.ofValue value = detail) items details := by
  rw [detailsOf?, Json.mapM_eq_some_iff]
  simp only [Option.map_eq_some_iff]

theorem exists_detailsOf?_iff {items : List Node} :
    (∃ details, detailsOf? (.array items) = some details) ↔
      ∀ item ∈ items, item.Acceptable (maxDepth - 2) := by
  simp only [detailsOf?_eq_some_iff, Json.exists_forall₂_iff, ← Value.exists_ofNode?_iff]
  refine forall₂_congr fun item _ => ⟨?_, ?_⟩
  · rintro ⟨_, value, means, -⟩
    exact ⟨value, means⟩
  · rintro ⟨value, means⟩
    exact ⟨_, value, means, rfl⟩

theorem forall₂_told {items : List Node} {details : List Detail}
    (h : detailsOf? (.array items) = some details) : List.Forall₂ Detail.Told items details := by
  refine (detailsOf?_eq_some_iff.mp h).imp ?_
  rintro item _ ⟨value, means, rfl⟩
  exact Detail.told_ofValue means

/-- **An object of that form is read as what it says.** -/
theorem form_is_read {body : Bytes} {members : List (Json.Text × Node)} {name text : String}
    {items : List Node} (written : (Node.object members).Written body)
    (form : Form members name text items)
    (acceptable : ∀ item ∈ items, item.Acceptable (maxDepth - 2)) :
    ∃ status, read? body = some status ∧
      (∀ code : Code, code.name = name → status.code = code) ∧
      ((∀ code : Code, code.name ≠ name) → status.code = .unknown) ∧
      status.message = text ∧
      List.Forall₂ Detail.Told items status.details ∧
      (status.isOverloaded = true ↔ ∃ item ∈ items, Detail.IsLimit item) := by
  obtain ⟨details, read⟩ := exists_detailsOf?_iff.mpr acceptable
  have told := forall₂_told read
  refine ⟨⟨Code.ofName name, text, details⟩, ?_, ?_, Code.ofName_eq_unknown, rfl, told,
    Detail.any_isLimit_iff told⟩
  · rw [read?, Node.read?_eq_some_iff.mpr written, Option.bind_some]
    obtain ⟨codeBody, code, codeText⟩ := form.code
    have isCode : Code.ofNode? (.string codeBody) = some (Code.ofName name) := by
      rw [Code.ofNode?, codeText, Option.map_some]
    -- a message that is not there reads as an empty one
    have ⟨found, message, isMessage⟩ : ∃ found, once? (Node.under members "message") = some found ∧
        found.elim (some "") messageOf? = some text := by
      obtain ⟨message, rfl⟩ | ⟨messageBody, message, messageText⟩ := form.message
      · exact ⟨none, by rw [message]; rfl, rfl⟩
      · exact ⟨some (.string messageBody), by rw [message]; rfl, messageText⟩
    exact ofNode?_object_eq_some_iff.mpr ⟨form.keys, some (.string codeBody), found,
      some (.array items), by rw [code]; rfl, message, by rw [form.details]; rfl,
      ofParts?_eq_some_iff.mpr ⟨isCode, isMessage, read⟩⟩
  · rintro code rfl
    exact Code.ofName_name code

/-- A limit that is told in a roundabout way, beside a number and under an unknown code. -/
theorem roundabout_limit_is_read :
    let octets (text : String) : Json.Text := (Utf8.encode text).map .octet
    let limit : Node := .object [
      (octets "@type", .number ⟨false, [0], none, none⟩),
      (octets "@type", .string (octets Detail.limitType)),
      (octets "retry_after_secs", .string (octets "soon"))]
    let members : List (Json.Text × Node) := [
      (octets "x", .number ⟨false, [1], none, some (false, [9, 9, 9])⟩),
      (octets "details", .array [.number ⟨true, [7], none, none⟩, limit]),
      (octets "code", .string (octets "BUSY"))]
    let body := Utf8.encode ("\x7b \"x\": 1e999, \"details\": [-7, \x7b\"@type\": 0, " ++
      "\"@type\": \"type.googleapis.com/gitaly.LimitError\", \"retry_after_secs\": \"soon\"\x7d], " ++
      "\"code\": \"BUSY\"\x7d")
    (Node.object members).Written body ∧
      ∃ status, read? body = some status ∧ status.code = .unknown ∧ status.message = "" ∧
        status.details.length = 2 ∧ status.isOverloaded = true := by
  intro octets limit members body
  have written : (Node.object members).Written body :=
    Json.Token.layout_of_scan (by decide +kernel)
  have reads : ∀ text ∈ ["x", "details", "code", "BUSY", "@type", "retry_after_secs", "soon",
      Detail.limitType], Json.Text.decode? (octets text) = some text := by decide +kernel
  simp only [List.forall_mem_cons] at reads
  obtain ⟨x, details, code, busy, type, retry, soon, limitType, -⟩ := reads
  have form : Form members "BUSY" "" [.number ⟨true, [7], none, none⟩, limit] := {
    keys := by simp [members, x, details, code]
    code := ⟨octets "BUSY", by simp [Node.under, members, x, details, code], busy⟩
    message := .inl ⟨by simp [Node.under, members, x, details, code], rfl⟩
    details := by simp [Node.under, members, x, details, code] }
  have isLimit : Detail.IsLimit limit :=
    .object (by simp [Node.effective, Node.under, type, retry]) limitType
  have acceptable : ∀ item ∈ [.number ⟨true, [7], none, none⟩, limit],
      item.Acceptable (maxDepth - 2) := by
    refine List.forall_mem_cons.mpr ⟨.number (by decide +kernel), ?_⟩
    refine List.forall_mem_cons.mpr ⟨.object ?_ ?_, List.forall_mem_nil _⟩
    · simp [type, retry]
    · simp only [List.forall_mem_cons]
      exact ⟨.number (by decide +kernel), .string limitType, .string soon, List.forall_mem_nil _⟩
  obtain ⟨status, read, -, unknown, message, told, overloaded⟩ :=
    form_is_read written form acceptable
  exact ⟨written, status, read, unknown fun code => by cases code <;> decide, message,
    told.length_eq.symm, overloaded.mpr ⟨limit, by simp, isLimit⟩⟩

end Status

end GitGateway
