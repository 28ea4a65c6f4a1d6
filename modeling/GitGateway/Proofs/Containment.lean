import GitGateway.Proofs.Correlation
import GitGateway.Proofs.NoticeLines
import Mathlib.Algebra.Ring.Nat

/-!
# IDs stay inside their line

A client may send any header value as the ID of its request, of any length and in any
encoding or none, and the ID is shown in the middle of a busy notice. It never gets out of
there.

- `Utf8.mem_encode_decodeLossy`: **no ASCII octet is made up** when a run is read as text
  and written again. An ASCII octet of the result stood in the run, since every character
  of several octets is a scalar value past ASCII (`Utf8.le_toNat_of_front`): overlong forms
  and surrogates, whose numbers are no characters or other ones, are broken pieces;
- `CorrelationId.mem_encode_bounded`: a cut adds its mark and nothing else;
- `CorrelationId.isValue_shown`: so what is shown of a header value is a header value, and
  has no control octet in it but tabs;
- `BusyNotice.Sentence`: the text for the user, which ends in its only line feed;
- `Proxy.id_is_contained`: the whole way, from the header to the lines that a client reads.

That the text is shown as it came is not claimed: a tab moves the words behind it, and of an
ID in another encoding little is left but replacement characters.
-/

namespace GitGateway

/-! ## Octets of lossy text -/

namespace Utf8

/-- The number of a scalar value. -/
theorem toNat_ofNat {n : Nat} (h : n.isValidChar) : (Char.ofNat n).toNat = n := by
  rw [Char.ofNat, dif_pos h]
  exact BitVec.toNat_ofNatLT ..

/-- Octets that continue a character append six bits each. By induction on how many are
owed. -/
theorem exists_of_follow_tail {owed bits : Nat} {rest after : Bytes} {c : Char}
    (h : follow owed 0x80 0xBF bits rest = (some c, after)) :
    ∃ n, c = Char.ofNat n ∧ bits * 64 ^ owed ≤ n ∧ n < (bits + 1) * 64 ^ owed := by
  induction owed generalizing bits rest with
  | zero =>
    cases h
    exact ⟨bits, rfl, by omega, by omega⟩
  | succ owed ih =>
    cases rest with
    | nil => cases h
    | cons b rest =>
      rw [follow] at h
      split at h
      · obtain ⟨n, rfl, lower, upper⟩ := ih h
        have sixBits : b.toNat % 64 < 64 := Nat.mod_lt _ (by decide)
        refine ⟨n, rfl, Nat.le_trans ?_ lower, Nat.lt_of_lt_of_le upper ?_⟩
        · rw [Nat.pow_succ, Nat.mul_comm (64 ^ owed), ← Nat.mul_assoc]
          exact Nat.mul_le_mul_right _ (Nat.le_add_right ..)
        · rw [Nat.pow_succ, Nat.mul_comm (64 ^ owed), ← Nat.mul_assoc]
          exact Nat.mul_le_mul_right _ (by omega)
      · cases h

/-- The first octet after a leading one may be bound more closely, and with it the number of
the character. -/
theorem exists_of_follow {owed : Nat} {low high : UInt8} {bits : Nat} {rest after : Bytes}
    {c : Char} (least : 0x80 ≤ low) (greatest : high ≤ 0xBF)
    (h : follow (owed + 1) low high bits rest = (some c, after)) :
    ∃ n, c = Char.ofNat n ∧ (bits * 64 + low.toNat % 64) * 64 ^ owed ≤ n ∧
      n < (bits * 64 + high.toNat % 64 + 1) * 64 ^ owed := by
  cases rest with
  | nil => cases h
  | cons b rest =>
    rw [follow] at h
    split at h
    · rename_i within
      obtain ⟨n, rfl, lower, upper⟩ := exists_of_follow_tail h
      -- between 0x80 and 0xBF the octets are in the order of their last six bits
      have least : 128 ≤ low.toNat := least
      have greatest : high.toNat ≤ 191 := greatest
      have low_le : low.toNat ≤ b.toNat := within.1
      have le_high : b.toNat ≤ high.toNat := within.2
      refine ⟨n, rfl, Nat.le_trans (Nat.mul_le_mul_right _ ?_) lower,
        Nat.lt_of_lt_of_le upper (Nat.mul_le_mul_right _ ?_)⟩
      · omega
      · omega
    · cases h

/-- A character is past ASCII if the bounds of its number are and hold no surrogate. -/
theorem le_toNat_of_follow {owed : Nat} {low high : UInt8} {bits : Nat} {rest after : Bytes}
    {c : Char} (least : 0x80 ≤ low) (greatest : high ≤ 0xBF)
    (past : 0x80 ≤ (bits * 64 + low.toNat % 64) * 64 ^ owed)
    (scalar : (bits * 64 + high.toNat % 64 + 1) * 64 ^ owed ≤ 0xD800 ∨
      0xE000 ≤ (bits * 64 + low.toNat % 64) * 64 ^ owed ∧
        (bits * 64 + high.toNat % 64 + 1) * 64 ^ owed ≤ 0x110000)
    (h : follow (owed + 1) low high bits rest = (some c, after)) : 0x80 ≤ c.toNat := by
  obtain ⟨n, rfl, lower, upper⟩ := exists_of_follow least greatest h
  have valid : n.isValidChar := by
    rcases scalar with below | ⟨above, inside⟩
    · exact .inl (Nat.lt_of_lt_of_le upper below)
    · exact .inr ⟨Nat.le_trans above lower, Nat.lt_of_lt_of_le upper inside⟩
  rw [toNat_ofNat valid]
  exact Nat.le_trans past lower

/-- **A character at the front** is an ASCII octet, or a character past ASCII. There is one
case for each kind of leading octet. -/
theorem le_toNat_of_front {b : UInt8} {rest after : Bytes} {c : Char}
    (h : front b rest = (some c, after)) :
    b ≤ 0x7F ∧ c = Char.ofNat b.toNat ∨ 0x80 ≤ c.toNat := by
  unfold front at h
  split at h
  · rename_i ascii
    cases h
    exact .inl ⟨ascii, rfl⟩
  refine .inr ?_
  split at h
  · -- two octets: the overlong forms would begin with C0 or C1
    rename_i lead
    have lead : 0xC2 ≤ b.toNat ∧ b.toNat ≤ 0xDF := lead
    refine le_toNat_of_follow (by decide) (by decide) ?_ (.inl ?_) h
    · omega
    · simp only [UInt8.reduceToNat]
      omega
  split at h
  · exact le_toNat_of_follow (by decide) (by decide) (by decide) (by decide) h
  split at h
  · exact le_toNat_of_follow (by decide) (by decide) (by decide) (by decide) h
  split at h
  · -- three octets: the surrogates would begin with ED, which the case before has taken
    rename_i notSurrogate lead
    have lead : 0xE1 ≤ b.toNat ∧ b.toNat ≤ 0xEF := lead
    have notSurrogate : b.toNat ≠ 0xED := fun same => notSurrogate (UInt8.toNat_inj.mp same)
    refine le_toNat_of_follow (by decide) (by decide) ?_ ?_ h
    · omega
    · simp only [UInt8.reduceToNat]
      omega
  split at h
  · exact le_toNat_of_follow (by decide) (by decide) (by decide) (by decide) h
  split at h
  · -- four octets
    rename_i lead
    have lead : 0xF1 ≤ b.toNat ∧ b.toNat ≤ 0xF3 := lead
    refine le_toNat_of_follow (by decide) (by decide) ?_ (.inr ?_) h
    · omega
    · simp only [UInt8.reduceToNat]
      omega
  split at h
  · exact le_toNat_of_follow (by decide) (by decide) (by decide) (by decide) h
  · cases h

/-- **The characters of a run** are ASCII octets of it, and characters past ASCII. -/
theorem of_mem_pieces {run : Bytes} {c : Char} (h : some c ∈ pieces run) :
    (∃ b ∈ run, b ≤ 0x7F ∧ c = Char.ofNat b.toNat) ∨ 0x80 ≤ c.toNat := by
  induction run using Utf8.induction with
  | nil =>
    rw [pieces_nil] at h
    cases h
  | cons b rest ih =>
    rw [pieces_cons] at h
    rcases List.mem_cons.mp h with first | later
    · have split : front b rest = (some c, (front b rest).2) := by
        rw [first]
      rcases le_toNat_of_front split with ⟨ascii, rfl⟩ | past
      · exact .inl ⟨b, List.mem_cons_self .., ascii, rfl⟩
      · exact .inr past
    · rcases ih later with ⟨octet, inside, ascii⟩ | past
      · exact .inl ⟨octet, List.mem_cons_of_mem _ ((front_suffix b rest).mem inside), ascii⟩
      · exact .inr past

/-- The octets of a character past ASCII are past ASCII. -/
theorem le_of_mem_utf8EncodeChar {c : Char} (past : 0x80 ≤ c.toNat) {b : UInt8}
    (mem : b ∈ String.utf8EncodeChar c) : 0x80 ≤ b := by
  have past : ¬ c.val.toNat ≤ 127 := Nat.not_le_of_lt past
  have octet : ∀ bits mark : Nat, 0x80 ≤ mark → bits + mark < 256 →
      0x80 ≤ UInt8.ofNat (bits + mark) := by
    intro bits mark marked small
    rw [UInt8.le_iff_toNat_le, UInt8.toNat_ofNat']
    show 128 ≤ (bits + mark) % 256
    omega
  rw [String.utf8EncodeChar, if_neg past] at mem
  split at mem
  · simp only [List.mem_cons, List.not_mem_nil, or_false] at mem
    rcases mem with rfl | rfl <;> exact octet _ _ (by decide) (by omega)
  split at mem
  · simp only [List.mem_cons, List.not_mem_nil, or_false] at mem
    rcases mem with rfl | rfl | rfl <;> exact octet _ _ (by decide) (by omega)
  · simp only [List.mem_cons, List.not_mem_nil, or_false] at mem
    rcases mem with rfl | rfl | rfl | rfl <;> exact octet _ _ (by decide) (by omega)

/-- An ASCII octet is a character of its own. -/
theorem utf8EncodeChar_ofNat {b : UInt8} (ascii : b ≤ 0x7F) :
    String.utf8EncodeChar (Char.ofNat b.toNat) = [b] := by
  have ascii : b.toNat ≤ 127 := ascii
  have number : (Char.ofNat b.toNat).val.toNat = b.toNat :=
    toNat_ofNat (.inl (Nat.lt_of_le_of_lt ascii (by decide)))
  rw [String.utf8EncodeChar, number, if_pos ascii, UInt8.ofNat_toNat]

/-- **No ASCII octet is made up** when a run is read as text and written again. -/
theorem mem_encode_decodeLossy {run : Bytes} {b : UInt8} (mem : b ∈ encode (decodeLossy run)) :
    b ∈ run ∨ 0x80 ≤ b := by
  rw [encode, decodeLossy, String.toList_ofList, List.flatMap_map] at mem
  obtain ⟨piece, inside, mem⟩ := List.mem_flatMap.mp mem
  cases piece with
  | none => exact .inr (le_of_mem_utf8EncodeChar (by decide) mem)
  | some c =>
    rcases of_mem_pieces inside with ⟨octet, inRun, ascii, rfl⟩ | past
    · rw [Option.getD_some, utf8EncodeChar_ofNat ascii, List.mem_singleton] at mem
      rw [mem]
      exact .inl inRun
    · exact .inr (le_of_mem_utf8EncodeChar past mem)

end Utf8

/-! ## Header values -/

namespace Http.Headers

theorem isValue_append (a b : Bytes) : isValue (a ++ b) = (isValue a && isValue b) :=
  List.all_append

/-- Every octet past ASCII may stand in a header value. -/
theorem isValueOctet_of_le {b : UInt8} (past : 0x80 ≤ b) : isValueOctet b = true := by
  have past : 128 ≤ b.toNat := past
  have printable : 0x20 ≤ b := UInt8.le_iff_toNat_le.mpr (Nat.le_trans (by decide) past)
  have ne : b ≠ 0x7F := by
    rintro rfl
    exact absurd past (by decide)
  simp [isValueOctet, printable, ne]

/-- A header value has no control octet in it but tabs. -/
theorem not_mem_of_isValue {value : Bytes} (h : isValue value = true) {b : UInt8}
    (control : isValueOctet b = false) : b ∉ value := by
  intro mem
  rw [List.all_eq_true.mp h b mem] at control
  cases control

end Http.Headers

open Http.Headers (isValue isValueOctet)

/-! ## What is shown of an ID -/

namespace CorrelationId

/-- A cut adds the mark and nothing else. -/
theorem mem_encode_bounded {id : String} {b : UInt8} (mem : b ∈ Utf8.encode (bounded id)) :
    b ∈ Utf8.encode id ∨ b ∈ Utf8.encode cutMark := by
  rw [bounded] at mem
  split at mem
  · exact .inl mem
  · rw [Utf8.encode_append, List.mem_append] at mem
    refine mem.imp_left fun kept => ?_
    rw [Utf8.encode, String.toList_ofList] at kept
    obtain ⟨c, inside, octet⟩ := List.mem_flatMap.mp kept
    exact List.mem_flatMap.mpr ⟨c, List.mem_of_mem_take inside, octet⟩

/-- What is shown of an ID has at most sixty characters, those of the mark included. -/
theorem length_bounded (id : String) : (bounded id).toList.length ≤ 60 := by
  rw [bounded]
  split
  · rename_i short
    rw [List.isEmpty_iff, List.drop_eq_nil_iff] at short
    exact Nat.le_trans short (by decide)
  · have mark : cutMark.toList.length = 12 := by decide
    rw [String.toList_append, String.toList_ofList, List.length_append, mark, List.length_take,
      maxShown]
    omega

/-- **What is shown of a header value is a header value.** -/
theorem isValue_shown {id : Bytes} (value : isValue id = true) :
    isValue (Utf8.encode (bounded (Utf8.decodeLossy id))) = true := by
  refine List.all_eq_true.mpr fun b mem => ?_
  rcases mem_encode_bounded mem with shown | mark
  · rcases Utf8.mem_encode_decodeLossy shown with sent | past
    · exact List.all_eq_true.mp value b sent
    · exact Http.Headers.isValueOctet_of_le past
  · have harmless : isValue (Utf8.encode cutMark) = true := by decide
    exact List.all_eq_true.mp harmless b mark

end CorrelationId

/-! ## Lines for the user -/

namespace BusyNotice

/-- A text that is one line for the user: it ends in a line feed, and there is nothing else
in it at which a terminal or a C program would end it. -/
structure Sentence (text : Bytes) : Prop where
  ends : text.getLast? = some 0x0A
  lineFeed : text.count 0x0A = 1
  noReturn : 0x0D ∉ text
  noNul : 0x00 ∉ text

/-- A header value becomes a sentence with a line feed behind it. -/
theorem sentence_of_isValue {line : Bytes} (h : isValue line = true) :
    Sentence (line ++ [0x0A]) where
  ends := List.getLast?_concat ..
  lineFeed := by
    have before : line.count 0x0A = 0 :=
      List.count_eq_zero.mpr (Http.Headers.not_mem_of_isValue h (by decide))
    rw [List.count_append, before]
    rfl
  noReturn := by
    have before : 0x0D ∉ line := Http.Headers.not_mem_of_isValue h (by decide)
    simpa using before
  noNul := by
    have before : 0x00 ∉ line := Http.Headers.not_mem_of_isValue h (by decide)
    simpa using before

/-- The octets of the message up to its line feed. -/
def messageLine (id : String) : Bytes :=
  Utf8.encode "GitLab is currently unable to handle this request due to load (ID " ++
    Utf8.encode id ++ Utf8.encode ")."

theorem encode_message_eq_line (id : String) :
    Utf8.encode (message id) = messageLine id ++ [0x0A] := by
  have closing : Utf8.encode ").\n" = Utf8.encode ")." ++ [0x0A] := by decide
  rw [encode_message, closing, messageLine, List.append_assoc _ _ [0x0A]]

/-- The words around the ID are no less a header value than the ID is. -/
theorem isValue_messageLine {id : String} (h : isValue (Utf8.encode id) = true) :
    isValue (messageLine id) = true := by
  have opening : isValue (Utf8.encode
      "GitLab is currently unable to handle this request due to load (ID ") = true := by decide
  have closing : isValue (Utf8.encode ").") = true := by decide
  rw [messageLine, Http.Headers.isValue_append, Http.Headers.isValue_append, opening, h, closing]
  rfl

/-- The message is a sentence, in a frame of its own and behind the word for an error. -/
theorem sentence_message {id : String} (h : isValue (Utf8.encode id) = true) :
    Sentence (Utf8.encode (message id)) ∧
      Sentence (Utf8.encode "ERR " ++ Utf8.encode (message id)) := by
  have words := isValue_messageLine h
  have marked : isValue (Utf8.encode "ERR " ++ messageLine id) = true := by
    have mark : isValue (Utf8.encode "ERR ") = true := by decide
    rw [Http.Headers.isValue_append, mark, words]
    rfl
  rw [encode_message_eq_line, ← List.append_assoc]
  exact ⟨sentence_of_isValue words, sentence_of_isValue marked⟩

/-- The lines of a notice with a given text for the user. -/
def lines : Operation → Bytes → List Line
  | .receivePack, text => [.data (1 :: report), .data (2 :: text), .flush]
  | .uploadPack, text => [.data (Utf8.encode "ERR " ++ text)]

/-- A notice about a bounded ID reads as its lines. -/
theorem readAll_octets_bounded (operation : Operation) (id : String) :
    Line.readAll (octets operation (CorrelationId.bounded id)) =
      ⟨lines operation (Utf8.encode (message (CorrelationId.bounded id))), none, []⟩ := by
  rw [octets, Line.readAll_octets (frames_fit operation id)]
  cases operation with
  | receivePack => rfl
  | uploadPack =>
    rw [frames_uploadPack]
    rfl

end BusyNotice

namespace Proxy

open Backend (Reply Client)
open Http (Request)

/-- **The ID of a request stays inside its line.** Whatever header value a client sends as
the ID, the notice about an overload is read as its three lines on a push and as its one
line on a fetch, and nothing is left; the text for the user is a sentence; and of the ID no
more is in it than sixty characters in 204 octets. -/
theorem id_is_contained {request : Request} {requestSecs : Nat} {reply : Reply} {id : Bytes}
    {operation : Operation} (sent : request.headers.first? idHeader = some id)
    (value : isValue id = true) (routed : isRouted request = true)
    (inTime : outlasts requestSecs (.reply reply) = false) (overloads : reply.Overloads)
    (path : Operation.ofPath? request.target.path = some operation) (client : Client)
    (fresh : Bytes) :
    let answer := (serve client requestSecs request fresh (.reply reply)).response
    let shown := CorrelationId.bounded (Utf8.decodeLossy id)
    let notice := BusyNotice.octets operation shown
    let text := Utf8.encode "GitLab is currently unable to handle this request due to load (ID " ++
      Utf8.encode shown ++ Utf8.encode ").\n"
    answer.body = delivered request { octets := notice } ∧
    Line.readAll notice = ⟨BusyNotice.lines operation text, none, []⟩ ∧
    BusyNotice.Sentence text ∧ BusyNotice.Sentence (Utf8.encode "ERR " ++ text) ∧
    shown.toList.length ≤ 60 ∧ (Utf8.encode shown).length ≤ 204 := by
  intro answer shown notice text
  have words : text = Utf8.encode (BusyNotice.message shown) :=
    (BusyNotice.encode_message shown).symm
  have ofRequest : (withId request fresh).2 = id := by
    rw [withId_id, sent]
    rfl
  have body : answer.body = delivered request (unfinished request fresh reply).body :=
    (serve_status_body routed inTime client fresh).2
  rw [unfinished_overloaded overloads path, ofRequest] at body
  rw [words]
  obtain ⟨sentence, marked⟩ := BusyNotice.sentence_message (CorrelationId.isValue_shown value)
  exact ⟨body, BusyNotice.readAll_octets_bounded operation _, sentence, marked,
    CorrelationId.length_bounded _, CorrelationId.length_encode_bounded _⟩

/-- An ID with two broken pieces in it, the first of which would swallow the bracket if it
were taken at its word. -/
theorem broken_id_is_contained :
    let id : Bytes := [0x09, 0xE2, 0x28, 0xFF]
    let request : Request := {
      method := "POST"
      target := ⟨none, none, some "/group/project.git/git-upload-pack"⟩
      headers := [("x-request-id", id)]
      body := [] }
    let status := Utf8.encode
      "[\"OK\", \"\", [\x7b\"@type\": \"type.googleapis.com/gitaly.LimitError\"\x7d]]"
    let reply : Reply := .response ⟨503, [], { octets := status }⟩
    let text := Utf8.encode "GitLab is currently unable to handle this request due to load (ID " ++
      Utf8.encode "\t\uFFFD(\uFFFD" ++ Utf8.encode ").\n"
    request.headers.first? idHeader = some id ∧ isValue id = true ∧
      isRouted request = true ∧ outlasts 600 (.reply reply) = false ∧ reply.Overloads ∧
      Operation.ofPath? request.target.path = some .uploadPack ∧
      Line.readAll (serve ⟨"backend:80"⟩ 600 request [] (.reply reply)).response.body.octets =
        ⟨[.data (Utf8.encode "ERR " ++ text)], none, []⟩ ∧
      BusyNotice.Sentence (Utf8.encode "ERR " ++ text) := by
  intro id request status reply text
  have sent : request.headers.first? idHeader = some id := by rfl
  have value : isValue id = true := by decide
  have routed : isRouted request = true := by decide +kernel
  have inTime : outlasts 600 (.reply reply) = false := by decide
  have overloads : reply.Overloads :=
    ⟨_, ⟨.ok, "", [.limitReached "" 0]⟩, "", 0, rfl, by decide, rfl, by decide,
      by decide +kernel, by decide⟩
  have path : Operation.ofPath? request.target.path = some .uploadPack := by decide
  obtain ⟨body, read, -, sentence, -, -⟩ :=
    id_is_contained sent value routed inTime overloads path ⟨"backend:80"⟩ []
  have pieces : Utf8.pieces id = [some '\t', none, some '(', none] := by
    simp [id, Utf8.pieces_cons, Utf8.front, Utf8.follow]
  have shown : CorrelationId.bounded (Utf8.decodeLossy id) = "\t\uFFFD(\uFFFD" := by
    rw [Utf8.decodeLossy, pieces]
    decide
  have post : request.method ≠ "HEAD" := by decide
  rw [shown, delivered, if_neg post] at body
  rw [shown] at read sentence
  refine ⟨sent, value, routed, inTime, overloads, path, ?_, sentence⟩
  rw [body]
  exact read

end Proxy

end GitGateway
