import GitGateway.Proofs.Json.Grammar
import GitGateway.Status.Reading
import Mathlib.Data.List.TakeWhile

/-!
# Padding around an answer

A backend may put blanks in front of the body of a failed answer and behind it. The two
readers of that body skip them by rules of their own: that of JSON knows four octets that
mean nothing between tokens, and the plain text loses every blank character at its ends,
once it is decoded. Here the two are shown to agree.

- `Json.Node.read?_pad`: no token starts or ends with a blank (`Token.Written.closed`), so
  padding never gets into one, nor completes one that is cut short;
- `Utf8.pieces_append_ascii`: nor does it get into a character. A piece that is cut short
  at the end of a run stays broken;
- `Trimmed`: what a text is without the blanks at its ends. Every text has exactly one such
  (`trimmed_trimBlank`, `Trimmed.eq_trimBlank`), and padding leaves it (`Trimmed.pad`);
- `Status.padding_is_immaterial`: **the status of an answer is that of its body without the
  padding**, on either way.
-/

namespace GitGateway

/-! ## Between tokens -/

namespace Json

/-- Octets that mean nothing between tokens. -/
def Padding (octets : Bytes) : Prop :=
  ∀ b ∈ octets, isSpace b = true

/-- Octets of which the last is no blank. -/
def Closed (text : Bytes) : Prop :=
  ∃ start last, text = start ++ [last] ∧ isSpace last = false

theorem Closed.append {text : Bytes} (h : Closed text) (before : Bytes) :
    Closed (before ++ text) := by
  obtain ⟨start, last, rfl, solid⟩ := h
  exact ⟨before ++ start, last, (List.append_assoc ..).symm, solid⟩

/-- What ends in padding is not closed. -/
theorem Closed.not_padding {text back : Bytes} (h : Closed (text ++ back)) (space : Padding back) :
    back = [] := by
  obtain ⟨start, last, cut, solid⟩ := h
  by_contra nonempty
  have ends : (text ++ back).getLast? = some last := by
    rw [cut, List.getLast?_concat]
  rw [List.getLast?_append_of_ne_nil _ nonempty] at ends
  rw [space last (List.mem_of_getLast? ends)] at solid
  cases solid

theorem DigitRun.closed {found : List Nat} {run : Bytes} (h : DigitRun found run) : Closed run := by
  have last := h.digits _ (List.getLast_mem h.nonempty)
  exact ⟨run.dropLast, run.getLast h.nonempty, (List.dropLast_append_getLast _).symm,
    (Token.next_digit last []).1⟩

namespace Numeral

theorem Fraction.closed {found : Option (List Nat)} {text : Bytes} (h : Fraction found text) :
    text = [] ∨ Closed text := by
  cases h with
  | absent => exact .inl rfl
  | present digits => exact .inr (digits.closed.append [0x2E])

theorem Exponent.closed {found : Option (Bool × List Nat)} {text : Bytes}
    (h : Exponent found text) : text = [] ∨ Closed text := by
  cases h with
  | absent => exact .inl rfl
  | @present letter _ _ sign _ _ _ digits => exact .inr (digits.closed.append (letter :: sign))

/-- A number ends with a digit, whichever of its parts is the last. -/
theorem Unsigned.closed {numeral : Numeral} {text : Bytes} (h : numeral.Unsigned text) :
    Closed text := by
  obtain ⟨⟨whole, fraction, exponent, rfl, digits, point, power⟩, -⟩ := h
  rcases power.closed with rfl | last
  · rw [List.append_nil]
    rcases point.closed with rfl | last
    · rw [List.append_nil]
      exact digits.closed
    · exact last.append _
  · exact last.append _

end Numeral

namespace Token

/-- **No token ends with a blank.** -/
theorem Written.closed {token : Token} {lexeme : Bytes} (h : Written token lexeme) :
    Closed lexeme := by
  cases h with
  | number written =>
    cases written with
    | plain _ body => exact body.closed
    | minus _ body => exact body.closed.append [0x2D]
  | string => exact ⟨_, 0x22, rfl, rfl⟩
  | nullWord => exact ⟨[0x6E, 0x75, 0x6C], 0x6C, rfl, rfl⟩
  | trueWord => exact ⟨[0x74, 0x72, 0x75], 0x65, rfl, rfl⟩
  | falseWord => exact ⟨[0x66, 0x61, 0x6C, 0x73], 0x65, rfl, rfl⟩
  | _ => exact ⟨[], _, rfl, rfl⟩

/-- **No token starts with a blank.** -/
theorem Written.not_blank {token : Token} {b : UInt8} {rest : Bytes}
    (h : Written token (b :: rest)) : isSpace b = false := by
  have stop : Numeral.Ends [] := nofun
  obtain ⟨first, tail, cut, solid, -⟩ := next_of_written h fun _ => stop
  obtain ⟨rfl, -⟩ := List.cons.inj cut
  exact solid

namespace Layout

theorem of_padding {octets : Bytes} (space : Padding octets) : Layout [] octets := by
  induction octets with
  | nil => exact .done
  | cons b rest ih =>
    have ⟨first, later⟩ := List.forall_mem_cons.mp space
    exact .blank first (ih later)

/-- Padding in front belongs to no token. -/
theorem of_padding_append {tokens : List Token} {front text : Bytes} (space : Padding front)
    (h : Layout tokens (front ++ text)) : Layout tokens text := by
  induction front with
  | nil => exact h
  | cons b rest ih =>
    obtain ⟨space, later⟩ := List.forall_mem_cons.mp space
    refine ih later ?_
    generalize heq : b :: rest ++ text = whole at h
    cases h with
    | done => cases heq
    | @blank _ _ _ _ later =>
      obtain ⟨rfl, rfl⟩ := List.cons.inj heq
      exact later
    | @token _ _ lexeme text here later =>
      -- a token that starts here starts with the blank
      cases lexeme with
      | nil =>
        obtain ⟨_, _, cut, -⟩ := here.closed
        simp at cut
      | cons first tail =>
        obtain ⟨rfl, -⟩ := List.cons.inj heq
        rw [here.not_blank] at space
        cases space

/-- Padding behind belongs to no token: the induction goes through the tokens of the padded
text, and the place where the padding starts is looked for in front of each. -/
theorem of_append_padding {tokens : List Token} {text back : Bytes} (space : Padding back)
    (h : Layout tokens (text ++ back)) : Layout tokens text := by
  generalize heq : text ++ back = whole at h
  induction h generalizing text back with
  | done =>
    obtain ⟨rfl, -⟩ := List.append_eq_nil_iff.mp heq
    exact .done
  | @blank tokens b rest blank _ ih =>
    cases text with
    | nil =>
      obtain rfl : back = b :: rest := heq
      exact ih (List.forall_mem_cons.mp space).2 (List.nil_append rest)
    | cons first text =>
      obtain ⟨rfl, later⟩ := List.cons.inj heq
      exact .blank blank (ih space later)
  | @token token tokens lexeme rest here later ih =>
    rcases List.append_eq_append_iff.mp heq with ⟨inside, rfl, rfl⟩ | ⟨between, rfl, rfl⟩
    · -- the padding would start inside the token
      have head : Padding inside := fun b mem => space b (List.mem_append_left _ mem)
      obtain rfl := here.closed.not_padding head
      rw [List.append_nil] at here
      have behind : Layout tokens [] := ih space rfl
      simpa using Layout.token here behind
    · exact .token here (ih space rfl)

/-- Blanks at the ends of a text leave its tokens. -/
theorem pad_iff {tokens : List Token} {front text back : Bytes} (before : Padding front)
    (behind : Padding back) : Layout tokens (front ++ text ++ back) ↔ Layout tokens text := by
  constructor
  · intro h
    exact of_append_padding behind (of_padding_append before (by rwa [← List.append_assoc]))
  · intro h
    have padded := ((of_padding before).append h).append (of_padding behind)
    rwa [List.nil_append, List.append_nil] at padded

end Layout

end Token

/-- **A padded text is read as the text**, be it a text of a tree or not. -/
theorem Node.read?_pad {front back : Bytes} (before : Padding front) (behind : Padding back)
    (text : Bytes) : read? (front ++ text ++ back) = read? text := by
  refine Option.ext fun node => ?_
  rw [read?_eq_some_iff, read?_eq_some_iff]
  exact Token.Layout.pad_iff before behind

end Json

/-! ## Between characters -/

namespace Utf8

/-- The characters of octets that are one each. -/
def asciiPieces (octets : Bytes) : List (Option Char) :=
  octets.map fun b => some (Char.ofNat b.toNat)

/-- What is owed to a character at the end of a run is not found in ASCII behind it. -/
theorem follow_append_ascii {back : Bytes} (ascii : ∀ b ∈ back, b ≤ 0x7F) (owed : Nat)
    {low : UInt8} (lower : 0x80 ≤ low) (high : UInt8) (bits : Nat) (rest : Bytes) :
    follow owed low high bits (rest ++ back) =
      ((follow owed low high bits rest).1, (follow owed low high bits rest).2 ++ back) := by
  induction owed generalizing low high bits rest with
  | zero => rfl
  | succ owed ih =>
    cases rest with
    | nil =>
      cases back with
      | nil => rfl
      | cons b back =>
        have small : b ≤ 0x7F := ascii b (List.mem_cons_self ..)
        have outside : ¬ (low ≤ b ∧ b ≤ high) := by
          rintro ⟨fits, -⟩
          exact absurd (UInt8.le_trans (UInt8.le_trans lower fits) small) (by decide)
        show follow (owed + 1) low high bits (b :: back) = (none, b :: back)
        rw [follow, if_neg outside]
    | cons b rest =>
      rw [List.cons_append, follow, follow]
      by_cases fits : low ≤ b ∧ b ≤ high
      · rw [if_pos fits, if_pos fits]
        exact ih (by decide) ..
      · rw [if_neg fits, if_neg fits]
        rfl

/-- The first piece of a run does not reach into ASCII behind the run. -/
theorem front_append_ascii {back : Bytes} (ascii : ∀ b ∈ back, b ≤ 0x7F) (b : UInt8)
    (rest : Bytes) : front b (rest ++ back) = ((front b rest).1, (front b rest).2 ++ back) := by
  unfold front
  repeat' split
  all_goals first
    | rfl
    | exact follow_append_ascii ascii _ (by decide) _ _ _

/-- ASCII in front of a run. -/
theorem pieces_ascii_append {ascii : Bytes} (h : ∀ b ∈ ascii, b ≤ 0x7F) (run : Bytes) :
    pieces (ascii ++ run) = asciiPieces ascii ++ pieces run := by
  induction ascii with
  | nil => rfl
  | cons b rest ih =>
    have ⟨small, later⟩ := List.forall_mem_cons.mp h
    have one : front b (rest ++ run) = (some (Char.ofNat b.toNat), rest ++ run) := by
      rw [front, if_pos small]
    rw [List.cons_append, pieces_cons, one, ih later]
    rfl

/-- **ASCII behind a run** leaves its pieces, also one that is cut short at its end. -/
theorem pieces_append_ascii {ascii : Bytes} (h : ∀ b ∈ ascii, b ≤ 0x7F) (run : Bytes) :
    pieces (run ++ ascii) = pieces run ++ asciiPieces ascii := by
  induction run using Utf8.induction with
  | nil => simpa using pieces_ascii_append h []
  | cons b rest ih =>
    rw [List.cons_append, pieces_cons, pieces_cons, front_append_ascii h, ih, List.cons_append]

end Utf8

/-! ## Around a text -/

/-- What a text is without the blanks at its ends. -/
structure Trimmed (chars trimmed : List Char) : Prop where
  between : ∃ front back, chars = front ++ trimmed ++ back ∧
    (∀ c ∈ front, isBlank c = true) ∧ ∀ c ∈ back, isBlank c = true
  first : ∀ c ∈ trimmed.head?, isBlank c = false
  last : ∀ c ∈ trimmed.getLast?, isBlank c = false

/-- Nothing is dropped where the first character is no blank. -/
theorem dropWhile_isBlank_eq_self {chars : List Char} (h : ∀ c ∈ chars.head?, isBlank c = false) :
    chars.dropWhile isBlank = chars := by
  cases chars with
  | nil => rfl
  | cons c rest => exact List.dropWhile_cons_of_neg (by simp [h c rfl])

theorem head?_dropWhile_isBlank (chars : List Char) :
    ∀ c ∈ (chars.dropWhile isBlank).head?, isBlank c = false := by
  induction chars with
  | nil => exact nofun
  | cons c rest ih =>
    by_cases blank : isBlank c = true
    · rw [List.dropWhile_cons_of_pos blank]
      exact ih
    · rw [List.dropWhile_cons_of_neg blank]
      rintro _ ⟨⟩
      exact Bool.not_eq_true _ ▸ blank

/-- **There is no more than one** such text, and it is found by dropping blanks. -/
theorem Trimmed.eq_trimBlank {chars trimmed : List Char} (h : Trimmed chars trimmed) :
    trimBlank chars = trimmed := by
  obtain ⟨⟨front, back, rfl, before, behind⟩, first, last⟩ := h
  cases trimmed with
  | nil =>
    -- all is blank, so that nothing is left of it from the front on
    have all : ∀ c ∈ front ++ [] ++ back, isBlank c = true := by
      simpa [or_imp, forall_and] using And.intro before behind
    rw [trimBlank, List.dropWhile_eq_nil_iff.mpr all]
    rfl
  | cons c rest =>
    have solid : ∀ d ∈ (c :: rest ++ back).head?, isBlank d = false := first
    have turned : ∀ d ∈ (c :: rest).reverse.head?, isBlank d = false := by
      rw [List.head?_reverse]
      exact last
    have blank : ∀ d ∈ back.reverse, isBlank d = true := fun d mem =>
      behind d (List.mem_reverse.mp mem)
    rw [trimBlank, List.append_assoc, List.dropWhile_append_of_pos before,
      dropWhile_isBlank_eq_self solid, List.reverse_append, List.dropWhile_append_of_pos blank,
      dropWhile_isBlank_eq_self turned, List.reverse_reverse]

/-- **There is one.** -/
theorem trimmed_trimBlank (chars : List Char) : Trimmed chars (trimBlank chars) where
  between := by
    have blank : ∀ {cs : List Char}, ∀ c ∈ cs.takeWhile isBlank, isBlank c = true :=
      fun c mem => List.mem_takeWhile_imp mem
    refine ⟨chars.takeWhile isBlank,
      ((chars.dropWhile isBlank).reverse.takeWhile isBlank).reverse, ?_, blank, ?_⟩
    · rw [trimBlank, List.append_assoc, ← List.reverse_append, List.takeWhile_append_dropWhile,
        List.reverse_reverse, List.takeWhile_append_dropWhile]
    · exact fun c mem => blank c (List.mem_reverse.mp mem)
  first := by
    -- what is dropped at the end leaves the start
    intro c mem
    have start : trimBlank chars <+: chars.dropWhile isBlank := by
      rw [trimBlank, ← List.reverse_suffix, List.reverse_reverse]
      exact List.dropWhile_suffix _
    obtain ⟨more, whole⟩ := start
    refine head?_dropWhile_isBlank chars c ?_
    rw [← whole, List.head?_append, Option.mem_def.mp mem]
    rfl
  last := by
    rw [trimBlank, List.getLast?_reverse]
    exact head?_dropWhile_isBlank _

/-- More blanks at the ends change nothing. -/
theorem Trimmed.pad {chars trimmed front back : List Char} (h : Trimmed chars trimmed)
    (before : ∀ c ∈ front, isBlank c = true) (behind : ∀ c ∈ back, isBlank c = true) :
    Trimmed (front ++ chars ++ back) trimmed := by
  obtain ⟨⟨front', back', rfl, before', behind'⟩, first, last⟩ := h
  refine ⟨⟨front ++ front', back' ++ back, ?_, ?_, ?_⟩, first, last⟩
  · simp only [List.append_assoc]
  · exact fun c mem => (List.mem_append.mp mem).elim (before c) (before' c)
  · exact fun c mem => (List.mem_append.mp mem).elim (behind' c) (behind c)

theorem trimBlank_pad {front back : List Char} (before : ∀ c ∈ front, isBlank c = true)
    (behind : ∀ c ∈ back, isBlank c = true) (chars : List Char) :
    trimBlank (front ++ chars ++ back) = trimBlank chars :=
  ((trimmed_trimBlank chars).pad before behind).eq_trimBlank

/-! ## Around an answer -/

/-- The four octets are ASCII, and as characters they are blanks. -/
theorem Json.Padding.blank {octets : Bytes} (h : Json.Padding octets) :
    (∀ b ∈ octets, b ≤ 0x7F) ∧
      ∀ c ∈ octets.map fun b => Char.ofNat b.toNat, isBlank c = true := by
  have four : ∀ b ∈ octets, b = 0x20 ∨ b = 0x09 ∨ b = 0x0A ∨ b = 0x0D := by
    intro b mem
    simpa [Json.isSpace, or_assoc] using h b mem
  constructor
  · intro b mem
    rcases four b mem with rfl | rfl | rfl | rfl <;> decide
  · intro c mem
    obtain ⟨b, inside, rfl⟩ := List.mem_map.mp mem
    rcases four b inside with rfl | rfl | rfl | rfl <;> decide

/-- The text of a padded run is the text of the run with blanks around it. -/
theorem Utf8.toList_decodeLossy_pad {front back : Bytes} (before : Json.Padding front)
    (behind : Json.Padding back) (body : Bytes) :
    (decodeLossy (front ++ body ++ back)).toList =
      (front.map fun b => Char.ofNat b.toNat) ++ (decodeLossy body).toList ++
        back.map fun b => Char.ofNat b.toNat := by
  rw [decodeLossy, pieces_append_ascii behind.blank.1, pieces_ascii_append before.blank.1]
  simp [decodeLossy, asciiPieces, Function.comp_def]

namespace Status

/-- **Padding is immaterial to what a failed answer says**, whatever its body is. A body that
spells a status says that status under every HTTP status. Any other body says the code of
the HTTP status and its own text, without the blanks at the ends, and never that there is
no capacity left. -/
theorem padding_is_immaterial {front back : Bytes} (before : Json.Padding front)
    (behind : Json.Padding back) (httpStatus : Nat) (body : Bytes) :
    read? (front ++ body ++ back) = read? body ∧
    ofAnswer httpStatus (front ++ body ++ back) = ofAnswer httpStatus body ∧
    (∀ status, read? body = some status → ∀ other, ofAnswer other body = status) ∧
    (read? body = none →
      (ofAnswer httpStatus body).code = Code.ofHttpStatus httpStatus ∧
      Trimmed (Utf8.decodeLossy body).toList (ofAnswer httpStatus body).message.toList ∧
      (ofAnswer httpStatus body).details = [] ∧
      (ofAnswer httpStatus body).isOverloaded = false) := by
  have same : read? (front ++ body ++ back) = read? body := by
    rw [read?, read?, Json.Node.read?_pad before behind]
  refine ⟨same, ?_, ?_, ?_⟩
  · rw [ofAnswer, ofAnswer, same]
    cases read? body with
    | some status => rfl
    | none =>
      -- the text is trimmed after it is decoded
      show (⟨_, String.ofList (trimBlank _), []⟩ : Status) = ⟨_, String.ofList (trimBlank _), []⟩
      rw [Utf8.toList_decodeLossy_pad before behind,
        trimBlank_pad before.blank.2 behind.blank.2]
  · intro status read other
    rw [ofAnswer, read]
  · intro unread
    have fallback : ofAnswer httpStatus body = ⟨Code.ofHttpStatus httpStatus,
        String.ofList (trimBlank (Utf8.decodeLossy body).toList), []⟩ := by
      rw [ofAnswer, unread]
    rw [fallback]
    refine ⟨rfl, ?_, rfl, rfl⟩
    show Trimmed _ (String.ofList _).toList
    rw [String.toList_ofList]
    exact trimmed_trimBlank _

/-- A text that breaks off inside a character, between blanks that JSON knows and one that
it does not. -/
theorem broken_text_is_trimmed :
    let front : Bytes := [0x0D, 0x0A, 0x20]
    let back : Bytes := [0x09, 0x20]
    let body : Bytes := [0xC2, 0xA0, 0x62, 0x75, 0x73, 0x79, 0xE2, 0x82]
    Json.Padding front ∧ Json.Padding back ∧
      ofAnswer 503 (front ++ body ++ back) = ⟨.unavailable, "busy\uFFFD", []⟩ := by
  intro front back body
  have before : Json.Padding front := by unfold Json.Padding; decide +kernel
  have behind : Json.Padding back := by unfold Json.Padding; decide +kernel
  refine ⟨before, behind, ?_⟩
  have unread : read? body = none := by decide +kernel
  have text : Utf8.pieces body = [some '\u00A0', some 'b', some 'u', some 's', some 'y', none] := by
    simp [body, Utf8.pieces_cons, Utf8.front, Utf8.follow]
  rw [(padding_is_immaterial before behind 503 body).2.1, ofAnswer, unread, Utf8.decodeLossy, text]
  decide

end Status

end GitGateway
