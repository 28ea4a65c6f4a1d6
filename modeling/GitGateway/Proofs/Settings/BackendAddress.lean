import GitGateway.Backend.Client
import GitGateway.Proofs.Settings.Checks

/-!
# The address of the backend

Two parts of the gateway look at the address of the backend. The check of the settings asks
only that it is not blank, and the client reads it as an authority.

- `Http.Authority.Scan.ofText`: what a scan knows, said of the text that it has behind it and
  not of the way there; `Scan.step_ofText_eq_ok_iff` says that each step keeps it so;
- `Http.Authority.MayFollow`: where a character may stand, one rule for each kind of character,
  and `Http.Authority.MayEnd`: where a text may end;
- `Http.Authority.check_eq_ok_iff`: **an address is taken exactly where each of its characters
  may stand after those before it, and where it may end**;
- `Settings.taken_address_passes`: what the client takes has no blank character in it, so the
  check of the settings lets it through, and what is blank is refused by both.

The converse is not claimed, and it is false: `not a host` is not blank and is no authority.
-/

namespace GitGateway

namespace Http.Authority

/-! ## Where a character may stand -/

/-- What is of a kind is no character that is not. -/
theorem ne_of_kind {kind : Char → Bool} {c d : Char} (h : kind c = true) (other : kind d = false) :
    c ≠ d := by
  rintro rfl
  exact Bool.false_ne_true (other.symm.trans h)

theorem not_isEnd_of_kind {kind : Char → Bool} {c : Char} (h : kind c = true)
    (ends : ['/', '?', '#'].any kind = false) : isEnd c = false := by
  simp only [List.any_cons, List.any_nil, Bool.or_false, Bool.or_eq_false_iff] at ends
  obtain ⟨slash, question, hash⟩ := ends
  simp [isEnd, ne_of_kind h slash, ne_of_kind h question, ne_of_kind h hash]

/-- What stands behind the last `@` or closing bracket of a text. -/
def recent (text : List Char) : List Char :=
  (text.reverse.takeWhile fun c => c != '@' && c != ']').reverse

theorem recent_concat {c : Char} (front : List Char) (no_at : c ≠ '@') (no_bracket : c ≠ ']') :
    recent (front ++ [c]) = recent front ++ [c] := by
  rw [recent, List.reverse_append, List.reverse_singleton, List.singleton_append,
    List.takeWhile_cons_of_pos (by simp [no_at, no_bracket]), List.reverse_cons, recent]

theorem recent_concat_mark {c : Char} (front : List Char) (mark : c = '@' ∨ c = ']') :
    recent (front ++ [c]) = [] := by
  rw [recent, List.reverse_append, List.reverse_singleton, List.singleton_append,
    List.takeWhile_cons_of_neg (by rcases mark with rfl | rfl <;> decide), List.reverse_nil]

/-- Whether a character may stand where a text ends. -/
inductive MayFollow (front : List Char) : Char → Prop
  | plain {c : Char} (plain : isPlain c = true) : MayFollow front c
  /-- A few colons are let through, as a user or an address may yet come to an end. -/
  | colon (few : (recent front).count ':' < maxColons) : MayFollow front ':'
  /-- Brackets open once, and not after a percent sign that is no part of a user. -/
  | opening (first : '[' ∉ front) (no_percent : '%' ∉ recent front) : MayFollow front '['
  /-- They close once, after they have opened. -/
  | closing (opened : '[' ∈ front) (first : ']' ∉ front) : MayFollow front ']'
  | atSign : MayFollow front '@'
  | percent : MayFollow front '%'

/-- Whether a text may end as it does. -/
structure MayEnd (text : List Char) : Prop where
  /-- There are both brackets or neither. -/
  brackets : '[' ∈ text ↔ ']' ∈ text
  /-- At most one colon, with which the port begins. -/
  one_colon : (recent text).count ':' ≤ 1
  no_percent : '%' ∉ recent text
  /-- Something comes after the user. -/
  no_at : text.getLast? ≠ some '@'

/-- Whether a text is an authority. -/
structure IsAuthority (text : List Char) : Prop where
  nonempty : text ≠ []
  follows : ∀ front c, front ++ [c] <+: text → MayFollow front c
  ends : MayEnd text

/-! ## What a scan knows -/

/-- What a scan knows of the text behind it. -/
def Scan.ofText (front : List Char) : Scan where
  colons := (recent front).count ':'
  percent := decide ('%' ∈ recent front)
  opened := decide ('[' ∈ front)
  closed := decide (']' ∈ front)
  atSign := front.getLast? == some '@'

/-- **A step** goes on where the character may stand, and knows of it afterwards. -/
theorem Scan.step_ofText {front : List Char} {c : Char} (h : MayFollow front c) :
    (ofText front).step c = .ok (ofText (front ++ [c])) := by
  cases h with
  | plain plain =>
    have colon : c ≠ ':' := ne_of_kind plain (by decide)
    have opening : c ≠ '[' := ne_of_kind plain (by decide)
    have closing : c ≠ ']' := ne_of_kind plain (by decide)
    have atSign : c ≠ '@' := ne_of_kind plain (by decide)
    have percent : c ≠ '%' := ne_of_kind plain (by decide)
    simp [step, ofText, plain, recent_concat front atSign closing, colon, opening, closing, atSign,
      percent, opening.symm, closing.symm, percent.symm]
  | colon few => simp [step, ofText, few, recent_concat]
  | opening first no_percent => simp [step, ofText, first, no_percent, recent_concat]
  | closing opened first => simp [step, ofText, opened, first, recent_concat_mark]
  | atSign => simp [step, ofText, recent_concat_mark]
  | percent => simp [step, ofText, recent_concat]

/-- It goes on nowhere else. -/
theorem mayFollow_of_step {front : List Char} {c : Char} {state : Scan}
    (h : (Scan.ofText front).step c = .ok state) : MayFollow front c := by
  by_cases colon : c = ':'
  · subst colon
    by_cases few : (recent front).count ':' < maxColons
    · exact .colon few
    · simp [Scan.step, Scan.ofText, few] at h
  by_cases opening : c = '['
  · subst opening
    by_cases percent : '%' ∈ recent front
    · simp [Scan.step, Scan.ofText, percent] at h
    by_cases opened : '[' ∈ front
    · simp [Scan.step, Scan.ofText, opened] at h
    exact .opening opened percent
  by_cases closing : c = ']'
  · subst closing
    by_cases closed : ']' ∈ front
    · simp [Scan.step, Scan.ofText, closed] at h
    by_cases opened : '[' ∈ front
    · exact .closing opened closed
    · simp [Scan.step, Scan.ofText, opened] at h
  by_cases atSign : c = '@'
  · exact atSign ▸ .atSign
  by_cases percent : c = '%'
  · exact percent ▸ .percent
  by_cases plain : isPlain c = true
  · exact .plain plain
  · simp [Scan.step, colon, opening, closing, atSign, percent, plain] at h

/-- **One step**: a scan goes on exactly where the character may stand, and then it knows of
that character what there is to know. -/
theorem Scan.step_ofText_eq_ok_iff {front : List Char} {c : Char} {state : Scan} :
    (ofText front).step c = .ok state ↔ MayFollow front c ∧ state = ofText (front ++ [c]) := by
  constructor
  · intro h
    have may := mayFollow_of_step h
    rw [step_ofText may] at h
    exact ⟨may, (Except.ok.inj h).symm⟩
  · rintro ⟨may, rfl⟩
    exact step_ofText may

theorem Scan.complete_ofText_iff {text : List Char} :
    (ofText text).complete = true ↔ MayEnd text := by
  simp only [complete, Bool.and_eq_true, Bool.not_eq_true', beq_iff_eq, decide_eq_true_eq]
  simp only [ofText, decide_eq_decide, decide_eq_false_iff_not, beq_eq_false_iff_ne]
  constructor
  · rintro ⟨⟨⟨brackets, one_colon⟩, no_at⟩, no_percent⟩
    exact ⟨brackets, one_colon, no_percent, no_at⟩
  · rintro ⟨brackets, one_colon, no_percent, no_at⟩
    exact ⟨⟨⟨brackets, one_colon⟩, no_at⟩, no_percent⟩

/-! ## What is taken -/

/-- No character that ends an authority may stand in one. -/
theorem MayFollow.not_isEnd {front : List Char} {c : Char} (h : MayFollow front c) :
    isEnd c = false := by
  cases h with
  | plain plain => exact not_isEnd_of_kind plain (by decide)
  | _ => decide

/-- The first character of a text, and those behind it. -/
theorem forall_prefix_cons_iff {p : List Char → Char → Prop} {c : Char} {rest : List Char} :
    (∀ front d, front ++ [d] <+: c :: rest → p front d) ↔
      p [] c ∧ ∀ front d, front ++ [d] <+: rest → p (c :: front) d := by
  constructor
  · intro h
    refine ⟨h [] c ?_, fun front d within => h (c :: front) d ?_⟩
    · exact List.prefix_append [c] rest
    · exact List.cons_prefix_cons.mpr ⟨rfl, within⟩
  · rintro ⟨first, later⟩ front d within
    cases front with
    | nil =>
      obtain ⟨rfl, -⟩ := List.cons_prefix_cons.mp within
      exact first
    | cons e front =>
      obtain ⟨rfl, behind⟩ := List.cons_prefix_cons.mp within
      exact later front d behind

/-- **A whole scan** gets to the end of a text exactly where every character may stand and the
text may end. -/
theorem scan_ofText_eq_ok_nil_iff {behind rest : List Char} :
    scan (Scan.ofText behind) rest = .ok [] ↔
      (∀ front c, front ++ [c] <+: rest → MayFollow (behind ++ front) c) ∧
        MayEnd (behind ++ rest) := by
  induction rest generalizing behind with
  | nil =>
    rw [scan, List.append_nil, ← Scan.complete_ofText_iff]
    have nowhere : ∀ front c, front ++ [c] <+: [] → MayFollow (behind ++ front) c := by
      intro front c within
      simp at within
    rw [and_iff_right nowhere]
    split
    · rename_i complete
      exact iff_of_true rfl complete
    · rename_i incomplete
      exact iff_of_false nofun incomplete
  | cons c rest ih =>
    rw [forall_prefix_cons_iff (p := fun front c => MayFollow (behind ++ front) c),
      List.append_nil, and_assoc]
    have later := @ih (behind ++ [c])
    simp only [List.append_assoc, List.singleton_append] at later
    rw [← later, scan]
    by_cases may : MayFollow behind c
    · have stepped := Scan.step_ofText_eq_ok_iff.mpr ⟨may, rfl⟩
      rw [may.not_isEnd, if_neg Bool.false_ne_true, stepped, and_iff_right may]
    · rw [iff_false_right fun h => may h.1]
      cases ends : isEnd c with
      | true =>
        rw [if_pos rfl]
        split <;> nofun
      | false =>
        rw [if_neg Bool.false_ne_true]
        split
        · rename_i state stepped
          exact absurd (Scan.step_ofText_eq_ok_iff.mp stepped).1 may
        · nofun

/-- **An address is taken exactly where it is an authority.** -/
theorem check_eq_ok_iff {address : String} :
    check address = .ok () ↔ IsAuthority address.toList := by
  have start : scan {} address.toList = scan (Scan.ofText []) address.toList := rfl
  have whole := @scan_ofText_eq_ok_nil_iff [] address.toList
  simp only [List.nil_append, ← start] at whole
  rw [check]
  split
  · rename_i empty
    refine iff_of_false nofun fun h => h.nonempty ?_
    rw [String.isEmpty_iff] at empty
    rw [empty, String.toList_empty]
  · rename_i some_character
    have nonempty : address.toList ≠ [] := by
      intro empty
      exact some_character (String.isEmpty_iff.mpr (String.toList_eq_nil_iff.mp empty))
    split
    · rename_i taken
      obtain ⟨follows, ends⟩ := whole.mp taken
      exact iff_of_true rfl ⟨nonempty, follows, ends⟩
    · rename_i left
      refine iff_of_false nofun fun h => ?_
      cases left.symm.trans (whole.mpr ⟨h.follows, h.ends⟩)
    · rename_i failed
      refine iff_of_false nofun fun h => ?_
      cases failed.symm.trans (whole.mpr ⟨h.follows, h.ends⟩)

/-! ## Blank characters -/

theorem toNat_lt_of_isPlain {c : Char} (plain : isPlain c = true) : c.toNat < 128 := by
  rw [isPlain, Bool.or_eq_true] at plain
  rcases plain with alphanumeric | sign
  · delta Char.isAlphanum Char.isAlpha Char.isUpper Char.isLower Char.isDigit at alphanumeric
    simp only [Bool.or_eq_true, Bool.and_eq_true, decide_eq_true_eq, ge_iff_le,
      UInt32.le_iff_toNat_le] at alphanumeric
    have lastUpper : 'Z'.val.toNat = 90 := rfl
    have lastLower : 'z'.val.toNat = 122 := rfl
    have lastDigit : '9'.val.toNat = 57 := rfl
    show c.val.toNat < 128
    omega
  · have all : ("!$&'()*+,-.;=_~".toList.all fun d => d.toNat < 128) = true := by decide
    exact of_decide_eq_true (List.all_eq_true.mp all c (List.contains_iff_mem.mp sign))

theorem not_blank_of_isPlain {c : Char} (plain : isPlain c = true) : isBlank c = false := by
  -- one after the other, as there are not many
  have ascii : ∀ n < 128, isPlain (Char.ofNat n) = true → isBlank (Char.ofNat n) = false := by
    decide +kernel
  have this := ascii c.toNat (toNat_lt_of_isPlain plain)
  rw [Char.ofNat_toNat] at this
  exact this plain

/-- An authority holds ASCII characters that are not blank. -/
theorem IsAuthority.forall_mem {text : List Char} (h : IsAuthority text) :
    ∀ c ∈ text, c.toNat < 128 ∧ isBlank c = false := by
  intro c mem
  obtain ⟨front, back, rfl⟩ := List.append_of_mem mem
  have within : front ++ [c] <+: front ++ c :: back := by simp
  cases h.follows front c within with
  | plain plain => exact ⟨toNat_lt_of_isPlain plain, not_blank_of_isPlain plain⟩
  | _ => decide

/-- No scan goes on at a blank character. -/
theorem Scan.step_of_blank {c : Char} (blank : isBlank c = true) (state : Scan) :
    state.step c = .error .invalidCharacter := by
  have colon : c ≠ ':' := ne_of_kind blank (by decide)
  have opening : c ≠ '[' := ne_of_kind blank (by decide)
  have closing : c ≠ ']' := ne_of_kind blank (by decide)
  have atSign : c ≠ '@' := ne_of_kind blank (by decide)
  have percent : c ≠ '%' := ne_of_kind blank (by decide)
  have plain : isPlain c = false := by
    rw [Bool.eq_false_iff]
    intro plain
    exact ne_of_kind blank (not_blank_of_isPlain plain) rfl
  simp [step, colon, opening, closing, atSign, percent, plain]

/-- A blank address is refused at its first character, if it has one. -/
theorem check_of_blank {address : String} (blank : ∀ c ∈ address.toList, isBlank c = true) :
    check address = .error (if address = "" then .empty else .invalidCharacter) := by
  by_cases empty : address = ""
  · rw [if_pos empty, empty]
    rfl
  · rw [if_neg empty, check, if_neg (mt String.isEmpty_iff.mp empty)]
    cases chars : address.toList with
    | nil => exact absurd (String.toList_eq_nil_iff.mp chars) empty
    | cons c rest =>
      have first : isBlank c = true := blank c (chars ▸ List.mem_cons_self ..)
      have inside : isEnd c = false := not_isEnd_of_kind first (by decide)
      rw [scan, inside, if_neg Bool.false_ne_true, Scan.step_of_blank first]

end Http.Authority

/-! ## The client and the check -/

open Http.Authority (IsAuthority check_eq_ok_iff check_of_blank)

namespace Backend.Client

/-- **A client is made for authorities** and for nothing else. -/
theorem ofAddress_eq_ok_iff {address : String} {client : Client} :
    ofAddress address = .ok client ↔ IsAuthority address.toList ∧ client = ⟨address⟩ := by
  rw [← check_eq_ok_iff, ofAddress]
  cases Http.Authority.check address with
  | ok =>
    rw [and_iff_right rfl]
    exact ⟨fun made => (Except.ok.inj made).symm, fun same => same ▸ rfl⟩
  | error reason => exact ⟨nofun, nofun⟩

theorem ofAddress_of_blank {address : String} (blank : ∀ c ∈ address.toList, isBlank c = true) :
    ofAddress address = .error
      (.invalidAddress address (if address = "" then .empty else .invalidCharacter)) := by
  rw [ofAddress, check_of_blank blank]

end Backend.Client

namespace Settings

/-- The problems that checks tell of are those of the checks that fail. -/
theorem Check.Reports.mem_iff {settings : Settings} {checks : List Check}
    {problems : List Problem} (h : Check.Reports settings checks problems) {problem : Problem} :
    problem ∈ problems ↔
      ∃ check ∈ checks, ¬ check.Passes settings ∧ check.problem settings = problem := by
  induction h with
  | done => simp
  | passed passes _ ih => simp [ih, passes]
  | failed fails _ ih => simp [ih, fails, eq_comm]

/-- The address of the backend is a problem exactly where it is blank. -/
theorem emptyBackendAddress_mem_problems_iff {settings : Settings} :
    .emptyBackendAddress ∈ settings.problems ↔
      ∀ c ∈ settings.backend.address.toList, isBlank c = true := by
  have fails : ¬ Check.backendAddress.Passes settings ↔
      ∀ c ∈ settings.backend.address.toList, isBlank c = true := by
    simp [Check.Passes]
  rw [(reports_problems settings).mem_iff, ← fails]
  constructor
  · rintro ⟨check, -, fails, same⟩
    cases check with
    | backendAddress => exact fails
    | _ => cases same
  · intro fails
    exact ⟨.backendAddress, Check.mem_all _, fails, rfl⟩

/-- **What the client takes passes the check.**

- An address that a client is made for is an authority, all of it ASCII and none of it blank,
  and the check does not tell of it, whatever the other settings are.
- There is a client for every authority.
- A blank address, which may be empty, is refused by both: the check tells of it, and the client
  says that it is empty or that its first character is none of an authority. -/
theorem taken_address_passes (settings : Settings) :
    let address := settings.backend.address
    (∀ client, Backend.Client.ofAddress address = .ok client →
      IsAuthority address.toList ∧ (∀ c ∈ address.toList, c.toNat < 128 ∧ isBlank c = false) ∧
      .emptyBackendAddress ∉ settings.problems) ∧
    (IsAuthority address.toList → Backend.Client.ofAddress address = .ok ⟨address⟩) ∧
    ((∀ c ∈ address.toList, isBlank c = true) →
      .emptyBackendAddress ∈ settings.problems ∧
      Backend.Client.ofAddress address = .error
        (.invalidAddress address (if address = "" then .empty else .invalidCharacter))) := by
  intro address
  refine ⟨fun client made => ?taken, fun authority => ?made, fun blank => ?blank⟩
  case taken =>
    obtain ⟨authority, -⟩ := Backend.Client.ofAddress_eq_ok_iff.mp made
    have clean := authority.forall_mem
    refine ⟨authority, clean, ?_⟩
    rw [emptyBackendAddress_mem_problems_iff]
    intro blank
    obtain ⟨c, mem⟩ := List.exists_mem_of_ne_nil _ authority.nonempty
    exact Bool.false_ne_true ((clean c mem).2.symm.trans (blank c mem))
  case made => exact Backend.Client.ofAddress_eq_ok_iff.mpr ⟨authority, rfl⟩
  case blank =>
    exact ⟨emptyBackendAddress_mem_problems_iff.mpr blank, Backend.Client.ofAddress_of_blank blank⟩

/-- An address with all that means something to a scan: a user with a percent sign, an address
between brackets with colons and a zone, and a port. Beside it one that is blank. -/
theorem zoned_address_passes :
    let zoned : Settings := { backend := { address := "us%65r:pw@[fe80::1%25eth0]:8075" } }
    let blank : Settings := { backend := { address := "\t\u3000 " } }
    Backend.Client.ofAddress zoned.backend.address = .ok ⟨zoned.backend.address⟩ ∧
      .emptyBackendAddress ∉ zoned.problems ∧ .emptyBackendAddress ∈ blank.problems ∧
      Backend.Client.ofAddress blank.backend.address =
        .error (.invalidAddress blank.backend.address .invalidCharacter) := by
  intro zoned blank
  have made : Backend.Client.ofAddress zoned.backend.address = .ok ⟨zoned.backend.address⟩ := by
    have found : (Backend.Client.ofAddress zoned.backend.address).toOption =
        some ⟨zoned.backend.address⟩ := by decide +kernel
    generalize Backend.Client.ofAddress zoned.backend.address = answer at found ⊢
    cases answer with
    | error _ => cases found
    | ok _ =>
      cases found
      rfl
  obtain ⟨taken, -, -⟩ := taken_address_passes zoned
  obtain ⟨-, -, silent⟩ := taken _ made
  obtain ⟨-, -, refused⟩ := taken_address_passes blank
  have nothing : isBlankText blank.backend.address = true := by decide
  obtain ⟨told, unmade⟩ := refused (List.all_eq_true.mp nothing)
  exact ⟨made, silent, told, unmade⟩

end Settings

end GitGateway
