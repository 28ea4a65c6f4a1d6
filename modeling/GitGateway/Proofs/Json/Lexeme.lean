import GitGateway.Json.Token

/-!
# How tokens are written

The lexical half of the JSON grammar, as relations between what is meant and the octets
that say it.

- `Numeral.Written`, `Text.Written`, `Token.Written`: the octets of a number, of the
  inside of a string and of a token. A string may be written in many ways and a number
  in a few, so these are relations and no functions;
- `Token.exists_written_of_next`: whatever is read as a token is written so;
- `Token.next_of_written`: whatever is written so is read as that token, in front of
  anything that does not go on with it. Only a number can be gone on with, by a digit, a
  point or the letter of an exponent (`Numeral.Ends`).

Strings are octets here. Whether they are UTF-8, and whether code units pair up, is no
question of the grammar.
-/

namespace GitGateway.Json

/-! ## Digits -/

/-- One digit or more, and the values of them. -/
structure DigitRun (found : List Nat) (run : Bytes) : Prop where
  digits : ∀ b ∈ run, isDigit b = true
  values : run.map (fun b => b.toNat - 0x30) = found
  nonempty : run ≠ []

/-- Nothing or an octet that is no digit comes next. -/
def NoDigit (rest : Bytes) : Prop :=
  ∀ b ∈ rest.head?, isDigit b = false

/-- Digits are read to their end. -/
theorem digits_append {run rest : Bytes} (h : ∀ b ∈ run, isDigit b = true) (stop : NoDigit rest) :
    digits (run ++ rest) = (run.map fun b => b.toNat - 0x30, rest) := by
  have stays : rest.takeWhile isDigit = [] ∧ rest.dropWhile isDigit = rest := by
    cases rest with
    | nil => exact ⟨rfl, rfl⟩
    | cons b tail =>
      have hb : isDigit b = false := stop b rfl
      simp [hb]
  rw [digits, List.takeWhile_append_of_pos h, List.dropWhile_append_of_pos h, stays.1, stays.2,
    List.append_nil]

theorem digits?_append {found : List Nat} {run rest : Bytes} (h : DigitRun found run)
    (stop : NoDigit rest) : digits? (run ++ rest) = some (found, rest) := by
  rw [digits?, digits_append h.digits stop, h.values]
  cases found with
  | nil => exact absurd (List.map_eq_nil_iff.mp h.values) h.nonempty
  | cons digit more => rfl

/-- What is read as digits is a run of them. -/
theorem exists_digitRun {found : List Nat} {input rest : Bytes}
    (h : digits? input = some (found, rest)) :
    ∃ run, DigitRun found run ∧ input = run ++ rest := by
  rw [digits?] at h
  split at h
  · cases h
  · rename_i nonempty
    obtain ⟨rfl, rfl⟩ := Prod.mk.inj (Option.some.inj h)
    refine ⟨input.takeWhile isDigit, ⟨?_, rfl, ?_⟩, List.takeWhile_append_dropWhile.symm⟩
    · exact List.all_eq_true.mp List.all_takeWhile
    · intro none
      exact nonempty (input.dropWhile isDigit) (by rw [digits, none]; rfl)

/-! ## Numbers -/

namespace Numeral

/-- A point and digits, or nothing. -/
inductive Fraction : Option (List Nat) → Bytes → Prop
  | absent : Fraction none []
  | present {found : List Nat} {run : Bytes} (digits : DigitRun found run) :
    Fraction (some found) (0x2E :: run)

/-- The sign of an exponent (true: negative). -/
inductive Sign : Bool → Bytes → Prop
  | absent : Sign false []
  | plus : Sign false [0x2B]
  | minus : Sign true [0x2D]

/-- A letter, perhaps a sign, and digits, or nothing. -/
inductive Exponent : Option (Bool × List Nat) → Bytes → Prop
  | absent : Exponent none []
  | present {letter : UInt8} {negative : Bool} {found : List Nat} {sign run : Bytes}
    (isLetter : letter = 0x65 ∨ letter = 0x45) (signed : Sign negative sign)
    (digits : DigitRun found run) :
    Exponent (some (negative, found)) (letter :: (sign ++ run))

/-- The octets of a number behind its sign. -/
structure Unsigned (numeral : Numeral) (text : Bytes) : Prop where
  parts : ∃ whole fraction exponent, text = whole ++ fraction ++ exponent ∧
    DigitRun numeral.whole whole ∧ Fraction numeral.fraction fraction ∧
    Exponent numeral.exponent exponent
  /-- No zero stands in front of other digits. -/
  noLeadingZero : ∀ digit more, numeral.whole ≠ 0 :: digit :: more

/-- The octets of a number. -/
inductive Written : Numeral → Bytes → Prop
  | plain {numeral : Numeral} {text : Bytes} (sign : numeral.negative = false)
    (body : Unsigned numeral text) : Written numeral text
  | minus {numeral : Numeral} {text : Bytes} (sign : numeral.negative = true)
    (body : Unsigned numeral text) : Written numeral (0x2D :: text)

/-- What comes next does not go on with a number. -/
def Ends (rest : Bytes) : Prop :=
  ∀ b ∈ rest.head?, isDigit b = false ∧ b ≠ 0x2E ∧ b ≠ 0x65 ∧ b ≠ 0x45

theorem Ends.noDigit {rest : Bytes} (h : Ends rest) : NoDigit rest :=
  fun b hb => (h b hb).1

theorem Fraction.noDigit {found : Option (List Nat)} {text rest : Bytes} (h : Fraction found text)
    (stop : NoDigit rest) : NoDigit (text ++ rest) := by
  cases h with
  | absent => exact stop
  | present digits =>
    rintro b ⟨⟩
    rfl

theorem Exponent.noDigit {found : Option (Bool × List Nat)} {text rest : Bytes}
    (h : Exponent found text) (stop : NoDigit rest) : NoDigit (text ++ rest) := by
  cases h with
  | absent => exact stop
  | present isLetter signed digits =>
    rintro b ⟨⟩
    rcases isLetter with rfl | rfl <;> rfl

theorem Exponent.noPoint {found : Option (Bool × List Nat)} {text rest : Bytes}
    (h : Exponent found text) (stop : Ends rest) : ∀ b ∈ (text ++ rest).head?, b ≠ 0x2E := by
  cases h with
  | absent => exact fun b hb => (stop b hb).2.1
  | present isLetter signed digits =>
    rintro b ⟨⟩
    rcases isLetter with rfl | rfl <;> decide

theorem fraction?_append {found : Option (List Nat)} {text rest : Bytes} (h : Fraction found text)
    (stop : NoDigit rest) (point : ∀ b ∈ rest.head?, b ≠ 0x2E) :
    fraction? (text ++ rest) = some (found, rest) := by
  cases h with
  | absent =>
    show fraction? rest = _
    unfold fraction?
    split
    · exact absurd rfl (point 0x2E rfl)
    · rfl
  | present digits =>
    rw [List.cons_append]
    show (digits? _).map _ = _
    rw [digits?_append digits stop]
    rfl

/-- A digit is not the sign of an exponent. -/
theorem exponentSign_append {negative : Bool} {sign rest : Bytes} (h : Sign negative sign)
    (digit : ∃ b tail, rest = b :: tail ∧ isDigit b = true) :
    exponentSign (sign ++ rest) = (negative, rest) := by
  cases h with
  | plus => rfl
  | minus => rfl
  | absent =>
    obtain ⟨b, tail, rfl, hb⟩ := digit
    unfold exponentSign
    split
    · rename_i other heq
      obtain ⟨rfl, -⟩ := List.cons.inj heq
      cases hb
    · rename_i other heq
      obtain ⟨rfl, -⟩ := List.cons.inj heq
      cases hb
    · rfl

/-- Behind the letter of an exponent. -/
theorem exponent?_letter {letter : UInt8} (h : letter = 0x65 ∨ letter = 0x45) (rest : Bytes) :
    exponent? (letter :: rest) = (digits? (exponentSign rest).2).map fun found =>
      (some ((exponentSign rest).1, found.1), found.2) :=
  if_pos h

theorem exponent?_append {found : Option (Bool × List Nat)} {text rest : Bytes}
    (h : Exponent found text) (stop : Ends rest) :
    exponent? (text ++ rest) = some (found, rest) := by
  cases h with
  | absent =>
    cases rest with
    | nil => rfl
    | cons b tail =>
      obtain ⟨-, -, lower, upper⟩ := stop b rfl
      exact if_neg (not_or.mpr ⟨lower, upper⟩)
  | @present letter negative values sign run isLetter signed digits =>
    -- without a sign the exponent must not look like one: its first digit sees to that
    have first : ∃ b tail, run ++ rest = b :: tail ∧ isDigit b = true := by
      cases run with
      | nil => exact absurd rfl digits.nonempty
      | cons b tail => exact ⟨b, tail ++ rest, rfl, digits.digits b (List.mem_cons_self ..)⟩
    rw [List.cons_append, List.append_assoc, exponent?_letter isLetter,
      exponentSign_append signed first, digits?_append digits stop.noDigit]
    rfl

theorem whole?_append {found : List Nat} {run rest : Bytes} (h : DigitRun found run)
    (noLeadingZero : ∀ digit more, found ≠ 0 :: digit :: more) (stop : NoDigit rest) :
    whole? (run ++ rest) = some (found, rest) := by
  rw [whole?, digits?_append h stop]
  split
  · -- a zero that more digits follow is what the reader refuses
    rename_i heq
    obtain ⟨rfl, -⟩ := Prod.mk.inj (Option.some.inj heq)
    exact absurd rfl (noLeadingZero _ _)
  · rfl

/-- **A number is read to its end.** -/
theorem scan?_append {numeral : Numeral} {text rest : Bytes} (h : Unsigned numeral text)
    (stop : Ends rest) :
    scan? numeral.negative (text ++ rest) = some (numeral, rest) := by
  obtain ⟨⟨whole, fraction, exponent, rfl, digits, point, power⟩, noLeadingZero⟩ := h
  -- what stands behind each part does not go on with it
  have afterFraction : NoDigit (exponent ++ rest) := power.noDigit stop.noDigit
  have noPoint : ∀ b ∈ (exponent ++ rest).head?, b ≠ 0x2E := power.noPoint stop
  rw [scan?, List.append_assoc, List.append_assoc,
    whole?_append digits noLeadingZero (point.noDigit afterFraction)]
  simp only [bind, Option.bind_some, fraction?_append point afterFraction noPoint,
    exponent?_append power stop]
  rfl

theorem exists_fraction {found : Option (List Nat)} {input rest : Bytes}
    (h : fraction? input = some (found, rest)) :
    ∃ text, Fraction found text ∧ input = text ++ rest := by
  unfold fraction? at h
  split at h
  · obtain ⟨⟨values, after⟩, read, same⟩ := Option.map_eq_some_iff.mp h
    obtain ⟨rfl, rfl⟩ := Prod.mk.inj same
    obtain ⟨run, digits, rfl⟩ := exists_digitRun read
    exact ⟨0x2E :: run, .present digits, rfl⟩
  · obtain ⟨rfl, rfl⟩ := Prod.mk.inj (Option.some.inj h)
    exact ⟨[], .absent, rfl⟩

theorem exists_sign (input : Bytes) :
    ∃ sign, Sign (exponentSign input).1 sign ∧ input = sign ++ (exponentSign input).2 := by
  unfold exponentSign
  split
  · exact ⟨_, .minus, rfl⟩
  · exact ⟨_, .plus, rfl⟩
  · exact ⟨_, .absent, rfl⟩

theorem exists_exponent {found : Option (Bool × List Nat)} {input rest : Bytes}
    (h : exponent? input = some (found, rest)) :
    ∃ text, Exponent found text ∧ input = text ++ rest := by
  cases input with
  | nil =>
    obtain ⟨rfl, rfl⟩ := Prod.mk.inj (Option.some.inj h)
    exact ⟨[], .absent, rfl⟩
  | cons letter tail =>
    by_cases isLetter : letter = 0x65 ∨ letter = 0x45
    · rw [exponent?_letter isLetter] at h
      obtain ⟨⟨values, after⟩, read, same⟩ := Option.map_eq_some_iff.mp h
      obtain ⟨rfl, rfl⟩ := Prod.mk.inj same
      obtain ⟨sign, signed, cut⟩ := exists_sign tail
      obtain ⟨run, digits, cut'⟩ := exists_digitRun read
      refine ⟨letter :: (sign ++ run), .present isLetter signed digits, ?_⟩
      rw [cut, cut', List.cons_append, List.append_assoc]
    · obtain ⟨rfl, rfl⟩ := Prod.mk.inj (Option.some.inj ((if_neg isLetter).symm.trans h))
      exact ⟨[], .absent, rfl⟩

theorem exists_whole {found : List Nat} {input rest : Bytes}
    (h : whole? input = some (found, rest)) :
    (∃ run, DigitRun found run ∧ input = run ++ rest) ∧
      ∀ digit more, found ≠ 0 :: digit :: more := by
  rw [whole?] at h
  split at h
  · cases h
  · rename_i noLeadingZero
    refine ⟨exists_digitRun h, ?_⟩
    rintro digit more rfl
    exact noLeadingZero digit more rest h

/-- **What is read as a number is written so.** -/
theorem exists_unsigned {negative : Bool} {numeral : Numeral} {input rest : Bytes}
    (h : scan? negative input = some (numeral, rest)) :
    numeral.negative = negative ∧ ∃ text, Unsigned numeral text ∧ input = text ++ rest := by
  simp only [scan?, bind, Option.bind_eq_some_iff, Prod.exists, pure, Option.some.injEq,
    Prod.mk.injEq] at h
  obtain ⟨whole, after, readWhole, fraction, after', readFraction, exponent, after'',
    readExponent, rfl, rfl⟩ := h
  obtain ⟨⟨run, digits, rfl⟩, noLeadingZero⟩ := exists_whole readWhole
  obtain ⟨point, pointed, rfl⟩ := exists_fraction readFraction
  obtain ⟨power, powered, rfl⟩ := exists_exponent readExponent
  refine ⟨rfl, run ++ point ++ power, ⟨⟨run, point, power, rfl, digits, pointed, powered⟩,
    noLeadingZero⟩, ?_⟩
  simp only [List.append_assoc]

end Numeral

/-! ## Strings -/

/-- The octets of a part of a string. -/
inductive Piece.Written : Piece → Bytes → Prop
  | plain {b : UInt8} (quote : b ≠ 0x22) (backslash : b ≠ 0x5C) (control : ¬ b < 0x20) :
    Written (.octet b) [b]
  | escape {letter b : UInt8} (stands : escape? letter = some b) : Written (.octet b) [0x5C, letter]
  | unit {p q r s : UInt8} {p' q' r' s' : Nat} (hp : Hex.value? p = some p')
    (hq : Hex.value? q = some q') (hr : Hex.value? r = some r') (hs : Hex.value? s = some s') :
    Written (.unit (((p' * 16 + q') * 16 + r') * 16 + s')) [0x5C, 0x75, p, q, r, s]

namespace Text

/-- The octets of the inside of a string. -/
inductive Written : Text → Bytes → Prop
  | nil : Written [] []
  | cons {piece : Piece} {body : Text} {text more : Bytes} (first : piece.Written text)
    (rest : Written body more) : Written (piece :: body) (text ++ more)

/-- A part of a string is read to its end. -/
theorem scanAfter_piece {piece : Piece} {text : Bytes} (h : piece.Written text) (seen : Text)
    (rest : Bytes) : scanAfter seen (text ++ rest) = scanAfter (piece :: seen) rest := by
  cases h with
  | @plain b quote backslash control =>
    rw [List.singleton_append, scanAfter.eq_def]
    simp only [if_neg quote, if_neg backslash, if_neg control]
  | @escape letter b stands =>
    have letter_ne : letter ≠ 0x75 := by
      rintro rfl
      cases stands
    have ne : (0x5C : UInt8) ≠ 0x22 := by decide
    rw [List.cons_append, List.singleton_append, scanAfter.eq_def]
    simp only [if_neg ne, if_true, if_neg letter_ne, stands]
  | unit hp hq hr hs =>
    have ne : (0x5C : UInt8) ≠ 0x22 := by decide
    simp only [List.cons_append, List.nil_append]
    rw [scanAfter.eq_def]
    simp only [if_neg ne, if_true, hp, hq, hr, hs]

/-- **A string is read up to its closing quote.** -/
theorem scanAfter_append {body : Text} {text : Bytes} (h : Written body text) (seen : Text)
    (rest : Bytes) :
    scanAfter seen (text ++ 0x22 :: rest) = some (seen.reverse ++ body, rest) := by
  induction h generalizing seen with
  | nil =>
    rw [List.nil_append, scanAfter.eq_def, List.append_nil]
    exact if_pos rfl
  | cons first later ih =>
    rw [List.append_assoc, scanAfter_piece first, ih]
    simp

/-- One more part in front of what was read after it. -/
theorem exists_written_cons {piece : Piece} {text : Bytes} (first : piece.Written text)
    {seen body : Text} {input rest : Bytes}
    (later : ∃ more text, body = (piece :: seen).reverse ++ more ∧ Written more text ∧
      input = text ++ 0x22 :: rest) :
    ∃ more text', body = seen.reverse ++ more ∧ Written more text' ∧
      text ++ input = text' ++ 0x22 :: rest := by
  obtain ⟨more, text', rfl, written, rfl⟩ := later
  refine ⟨piece :: more, text ++ text', ?_, .cons first written, ?_⟩
  · rw [List.reverse_cons, List.append_assoc]
    rfl
  · rw [List.append_assoc]

/-- **What is read as a string is written so.** -/
theorem exists_written {seen body : Text} {input rest : Bytes}
    (h : scanAfter seen input = some (body, rest)) :
    ∃ more text, body = seen.reverse ++ more ∧ Written more text ∧ input = text ++ 0x22 :: rest := by
  fun_induction scanAfter seen input with
  | case2 seen tail =>
    -- the closing quote
    obtain ⟨rfl, rfl⟩ := Prod.mk.inj (Option.some.inj h)
    exact ⟨[], [], (List.append_nil _).symm, .nil, rfl⟩
  | case4 seen p q r s tail p' q' r' s' hs hr hq hp ne ih =>
    exact exists_written_cons (.unit hp hq hr hs) (ih h)
  | case7 seen letter tail ne octet stands ne' ih =>
    exact exists_written_cons (.escape stands) (ih h)
  | case10 seen b tail quote backslash control ih =>
    exact exists_written_cons (.plain quote backslash control) (ih h)
  | _ => cases h

end Text

/-! ## Tokens -/

namespace Token

/-- The octets of a token. -/
inductive Written : Token → Bytes → Prop
  | openArray : Written .openArray [0x5B]
  | closeArray : Written .closeArray [0x5D]
  | openObject : Written .openObject [0x7B]
  | closeObject : Written .closeObject [0x7D]
  | comma : Written .comma [0x2C]
  | colon : Written .colon [0x3A]
  | nullWord : Written .null [0x6E, 0x75, 0x6C, 0x6C]
  | trueWord : Written (.boolean true) [0x74, 0x72, 0x75, 0x65]
  | falseWord : Written (.boolean false) [0x66, 0x61, 0x6C, 0x73, 0x65]
  | number {numeral : Numeral} {text : Bytes} (h : numeral.Written text) :
    Written (.number numeral) text
  | string {body : Text} {text : Bytes} (h : body.Written text) :
    Written (.string body) (0x22 :: text ++ [0x22])

/-- Whether a token is a number. -/
def isNumber : Token → Bool
  | .number _ => true
  | _ => false

/-- A number without a sign starts with a digit. -/
theorem exists_digit_of_unsigned {numeral : Numeral} {text : Bytes} (h : numeral.Unsigned text) :
    ∃ b tail, text = b :: tail ∧ isDigit b = true := by
  obtain ⟨⟨whole, fraction, exponent, rfl, digits, -, -⟩, -⟩ := h
  cases whole with
  | nil => exact absurd rfl digits.nonempty
  | cons b tail => exact ⟨b, _, rfl, digits.digits b (List.mem_cons_self ..)⟩

/-- A digit starts a number. -/
theorem next_digit {b : UInt8} (h : isDigit b = true) (rest : Bytes) :
    isSpace b = false ∧ next b rest =
      (Numeral.scan? false (b :: rest)).map fun found => (.number found.1, found.2) := by
  have ne : ∀ c, isDigit c = false → b ≠ c := by
    rintro c hc rfl
    rw [h] at hc
    cases hc
  constructor
  · simp [isSpace, ne 0x20 rfl, ne 0x09 rfl, ne 0x0A rfl, ne 0x0D rfl]
  · exact (if_neg (ne 0x22 rfl)).trans ((if_neg (ne 0x2D rfl)).trans (if_pos h))

/-- **A token is read to its end**, if nothing goes on with it. -/
theorem next_of_written {token : Token} {text after : Bytes} (h : Written token text)
    (ends : token.isNumber = true → Numeral.Ends after) :
    ∃ b tail, text = b :: tail ∧ isSpace b = false ∧
      next b (tail ++ after) = some (token, after) := by
  cases h with
  | @number numeral text written =>
    cases written with
    | minus sign body =>
      refine ⟨_, _, rfl, rfl, ?_⟩
      show (Numeral.scan? true _).map _ = _
      rw [← sign, Numeral.scan?_append body (ends rfl)]
      rfl
    | plain sign body =>
      obtain ⟨b, tail, rfl, digit⟩ := exists_digit_of_unsigned body
      have read := Numeral.scan?_append body (ends rfl)
      obtain ⟨unspaced, number⟩ := next_digit digit (tail ++ after)
      refine ⟨b, tail, rfl, unspaced, ?_⟩
      rw [number, ← List.cons_append, ← sign, read]
      rfl
  | @string body text written =>
    refine ⟨0x22, text ++ [0x22], rfl, rfl, ?_⟩
    rw [List.append_assoc]
    show (Text.scanAfter [] (text ++ 0x22 :: after)).map _ = _
    rw [Text.scanAfter_append written]
    rfl
  | _ => exact ⟨_, _, rfl, rfl, rfl⟩

/-- **What is read as a token is written so.** -/
theorem exists_written_of_next {b : UInt8} {rest after : Bytes} {token : Token}
    (h : next b rest = some (token, after)) :
    ∃ text, Written token text ∧ b :: rest = text ++ after := by
  unfold next at h
  split at h
  · -- a quote
    rename_i quote
    obtain ⟨⟨body, rest'⟩, read, same⟩ := Option.map_eq_some_iff.mp h
    obtain ⟨rfl, rfl⟩ := Prod.mk.inj same
    obtain ⟨more, text, rfl, written, rfl⟩ := Text.exists_written read
    exact ⟨_, .string written, by simp [quote]⟩
  split at h
  · -- a sign
    rename_i minus
    obtain ⟨⟨numeral, rest'⟩, read, same⟩ := Option.map_eq_some_iff.mp h
    obtain ⟨rfl, rfl⟩ := Prod.mk.inj same
    obtain ⟨sign, text, body, rfl⟩ := Numeral.exists_unsigned read
    exact ⟨_, .number (.minus sign body), by rw [minus]; rfl⟩
  split at h
  · -- a digit
    obtain ⟨⟨numeral, rest'⟩, read, same⟩ := Option.map_eq_some_iff.mp h
    obtain ⟨rfl, rfl⟩ := Prod.mk.inj same
    obtain ⟨sign, text, body, cut⟩ := Numeral.exists_unsigned read
    exact ⟨text, .number (.plain sign body), cut⟩
  · -- a mark, a word, or nothing that starts a token
    repeat' split at h
    all_goals cases h
    · exact ⟨_, .openArray, congrArg (· :: rest) ‹b = 0x5B›⟩
    · exact ⟨_, .closeArray, congrArg (· :: rest) ‹b = 0x5D›⟩
    · exact ⟨_, .openObject, congrArg (· :: rest) ‹b = 0x7B›⟩
    · exact ⟨_, .closeObject, congrArg (· :: rest) ‹b = 0x7D›⟩
    · exact ⟨_, .comma, congrArg (· :: rest) ‹b = 0x2C›⟩
    · exact ⟨_, .colon, congrArg (· :: rest) ‹b = 0x3A›⟩
    · exact ⟨_, .nullWord, rfl⟩
    · exact ⟨_, .trueWord, rfl⟩
    · exact ⟨_, .falseWord, rfl⟩

/-! ## Whole texts -/

/-- A text that holds tokens in order, with blanks before, between and after them. -/
inductive Layout : List Token → Bytes → Prop
  | done : Layout [] []
  | blank {tokens : List Token} {b : UInt8} {text : Bytes} (space : isSpace b = true)
    (later : Layout tokens text) : Layout tokens (b :: text)
  | token {token : Token} {tokens : List Token} {lexeme text : Bytes}
    (here : Written token lexeme) (later : Layout tokens text) :
    Layout (token :: tokens) (lexeme ++ text)

/-- No number follows directly on a number. -/
def Apart : List Token → Prop
  | [] => True
  | one :: rest => (one.isNumber = true → ∀ next ∈ rest.head?, next.isNumber = false) ∧ Apart rest

namespace Layout

theorem append {first second : List Token} {a b : Bytes} (h : Layout first a)
    (h' : Layout second b) : Layout (first ++ second) (a ++ b) := by
  induction h with
  | done => exact h'
  | blank space _ ih => exact .blank space ih
  | token here _ ih =>
    rw [List.cons_append, List.append_assoc]
    exact .token here ih

/-- A text can be cut wherever its tokens can. -/
theorem exists_append {first second : List Token} {text : Bytes}
    (h : Layout (first ++ second) text) :
    ∃ a b, text = a ++ b ∧ Layout first a ∧ Layout second b := by
  generalize heq : first ++ second = tokens at h
  induction h generalizing first with
  | done =>
    obtain ⟨rfl, rfl⟩ := List.append_eq_nil_iff.mp heq
    exact ⟨[], [], rfl, .done, .done⟩
  | @blank tokens b text space later ih =>
    obtain ⟨front, back, rfl, hfront, hback⟩ := ih heq
    exact ⟨b :: front, back, rfl, .blank space hfront, hback⟩
  | @token token tokens lexeme text here later ih =>
    cases first with
    | nil =>
      obtain rfl : second = token :: tokens := heq
      exact ⟨[], lexeme ++ text, rfl, .done, .token here later⟩
    | cons one more =>
      obtain ⟨rfl, rfl⟩ := List.cons.inj heq
      obtain ⟨front, back, rfl, hfront, hback⟩ := ih rfl
      exact ⟨lexeme ++ front, back, (List.append_assoc ..).symm, .token here hfront, hback⟩

/-- A text starts with its first token, but for blanks. -/
theorem exists_cons {token : Token} {tokens : List Token} {text : Bytes}
    (h : Layout (token :: tokens) text) :
    ∃ blanks lexeme rest, text = blanks ++ lexeme ++ rest ∧ Layout [] blanks ∧
      Written token lexeme ∧ Layout tokens rest := by
  generalize heq : token :: tokens = all at h
  induction h with
  | done => cases heq
  | @blank all b text space later ih =>
    obtain ⟨blanks, lexeme, rest, rfl, spaces, here, later⟩ := ih heq
    exact ⟨b :: blanks, lexeme, rest, rfl, .blank space spaces, here, later⟩
  | token here later =>
    cases heq
    exact ⟨[], _, _, rfl, .done, here, later⟩

/-- A token that is no number does not go on with one. -/
theorem ends_of_written {token : Token} {lexeme : Bytes} (h : Written token lexeme)
    (other : token.isNumber = false) (rest : Bytes) : Numeral.Ends (lexeme ++ rest) := by
  cases h with
  | number => cases other
  | _ =>
    rintro b ⟨⟩
    decide

/-- Where no number comes next, the text does not go on with one. -/
theorem ends {tokens : List Token} {text : Bytes} (h : Layout tokens text)
    (other : ∀ token ∈ tokens.head?, token.isNumber = false) : Numeral.Ends text := by
  cases h with
  | done => exact nofun
  | @blank _ b _ space later =>
    have ne : ∀ c, isSpace c = false → b ≠ c := by
      rintro c hc rfl
      rw [space] at hc
      cases hc
    rintro _ ⟨⟩
    refine ⟨?_, ne _ rfl, ne _ rfl, ne _ rfl⟩
    cases digit : isDigit b with
    | true => exact absurd space (by rw [(next_digit digit []).1]; exact Bool.false_ne_true)
    | false => rfl
  | token here later => exact ends_of_written here (other _ rfl) _

end Layout

/-! ## Reading a whole text -/

theorem scanAfter_blank {b : UInt8} (space : isSpace b = true) (seen : List Token) (rest : Bytes) :
    scanAfter seen (b :: rest) = scanAfter seen rest := by
  rw [scanAfter, if_pos space]

theorem scanAfter_next {b : UInt8} {rest after : Bytes} {token : Token}
    (unspaced : isSpace b = false) (h : next b rest = some (token, after)) (seen : List Token) :
    scanAfter seen (b :: rest) = scanAfter (token :: seen) after := by
  rw [scanAfter, unspaced, if_neg Bool.false_ne_true]
  split
  · rename_i failed
    rw [h] at failed
    cases failed
  · rename_i found
    rw [h] at found
    cases found
    rfl

theorem scanAfter_layout {tokens : List Token} {text : Bytes} (h : Layout tokens text)
    (apart : Apart tokens) (seen : List Token) :
    scanAfter seen text = some (seen.reverse ++ tokens) := by
  induction h generalizing seen with
  | done => simp [scanAfter]
  | blank space _ ih => rw [scanAfter_blank space, ih apart]
  | @token token tokens lexeme text here later ih =>
    obtain ⟨b, tail, rfl, unspaced, read⟩ :=
      next_of_written here fun number => later.ends (apart.1 number)
    rw [List.cons_append, scanAfter_next unspaced read, ih apart.2]
    simp

/-- **A text is read as the tokens that it holds.** -/
theorem scan_layout {tokens : List Token} {text : Bytes} (h : Layout tokens text)
    (apart : Apart tokens) : scan text = some tokens :=
  scanAfter_layout h apart []

theorem exists_layout_of_scanAfter {seen tokens : List Token} {text : Bytes}
    (h : scanAfter seen text = some tokens) :
    ∃ more, tokens = seen.reverse ++ more ∧ Layout more text := by
  fun_induction scanAfter seen text with
  | case1 seen =>
    obtain rfl := Option.some.inj h
    exact ⟨[], (List.append_nil _).symm, .done⟩
  | case2 seen b rest space ih =>
    obtain ⟨more, rfl, layout⟩ := ih h
    exact ⟨more, rfl, .blank space layout⟩
  | case3 => cases h
  | case4 seen b rest unspaced token after read shorter ih =>
    obtain ⟨more, rfl, layout⟩ := ih h
    obtain ⟨lexeme, written, cut⟩ := exists_written_of_next read
    refine ⟨token :: more, by simp, ?_⟩
    rw [cut]
    exact .token written layout

/-- **What is read as tokens holds them.** -/
theorem layout_of_scan {tokens : List Token} {text : Bytes} (h : scan text = some tokens) :
    Layout tokens text := by
  obtain ⟨more, rfl, layout⟩ := exists_layout_of_scanAfter h
  exact layout

end Token

end GitGateway.Json
