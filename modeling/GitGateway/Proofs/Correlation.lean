import GitGateway.Proofs.Answers

/-!
# One correlation ID

Every request has one ID, the first that its client sent or else a fresh one, and whatever
is said of the request is said under that ID: to the backend, in the log, in a busy notice
and to the client.

- `CorrelationId.encode_fresh`: a fresh ID is 32 hexadecimal digits, one octet each;
- `Http.Headers.values_addIfMissing`: a header that is added unless it is there;
- `Proxy.Logged`: all records of an answer carry one ID. Each part of the proxy that
  writes records keeps it (`refusal_logged`, `handleRouted_logged`, `around_logged`);
- `Proxy.serve_keeps_id`: the whole way.

What is *not* so: a client need not find the ID of its request on the answer. A success is
handed on with the headers that it came with, and the ID is put on it only if there is
none (`Proxy.own_id_is_handed_on`). `Proxy.BringsOwnId` says when that happens, and it is
the only exception.
-/

namespace GitGateway

/-! ## Fresh IDs -/

namespace CorrelationId

/-- The value of a digit of a fresh ID. -/
def freshValue (entropy index : Nat) : Nat :=
  let value := entropy / Nat.pow 16 index % 16
  if index = 12 then 4 else if index = 16 then 8 + value % 4 else value

theorem freshValue_lt (entropy index : Nat) : freshValue entropy index < 16 := by
  simp only [freshValue]
  split
  · decide
  · split
    · omega
    · exact Nat.mod_lt _ (by decide)

/-- A digit is a character of one octet. -/
theorem utf8EncodeChar_digitChar {value : Nat} (h : value < 16) :
    String.utf8EncodeChar (digitChar value) = [Hex.digit value] := by
  have all : ∀ v < 16, String.utf8EncodeChar (digitChar v) = [Hex.digit v] := by decide
  exact all value h

/-- The octets of a fresh ID. -/
theorem encode_fresh (entropy : Nat) :
    Utf8.encode (fresh entropy) =
      (List.range 32).map fun index => Hex.digit (freshValue entropy index) := by
  -- the version and the variant are digits like the others
  have digit : ∀ index, String.utf8EncodeChar (freshDigit entropy index) =
      [Hex.digit (freshValue entropy index)] :=
    fun index => utf8EncodeChar_digitChar (freshValue_lt entropy index)
  rw [Utf8.encode, fresh, String.toList_ofList, List.flatMap_map]
  simp only [digit, ← List.map_eq_flatMap]

/-- **A fresh ID** is 32 hexadecimal digits. -/
theorem encode_fresh_digits (entropy : Nat) :
    (Utf8.encode (fresh entropy)).length = 32 ∧
      ∀ b ∈ Utf8.encode (fresh entropy), ∃ value < 16, b = Hex.digit value := by
  rw [encode_fresh]
  refine ⟨by rw [List.length_map, List.length_range], ?_⟩
  intro b hmem
  obtain ⟨index, -, rfl⟩ := List.mem_map.mp hmem
  exact ⟨freshValue entropy index, freshValue_lt entropy index, rfl⟩

end CorrelationId

/-! ## Headers -/

namespace Http.Headers

theorem values_append (headers more : Headers) (name : String) :
    values (headers ++ more) name = headers.values name ++ values more name := by
  rw [values, List.filter_append, List.map_append]
  rfl

/-- Lines of another name do not count. -/
theorem values_of_ne {name other : String} (h : other ≠ name) (value : Bytes) :
    values [(other, value)] name = [] := by
  simp [values, h]

theorem values_self (name : String) (value : Bytes) : values [(name, value)] name = [value] := by
  simp [values]

/-- Taking out the lines of a name leaves those of any other. -/
theorem values_remove {name other : String} (h : name ≠ other) (headers : Headers) :
    (headers.remove other).values name = headers.values name := by
  rw [values, remove, List.filter_filter, values]
  congr 1
  refine List.filter_congr fun header _ => ?_
  by_cases same : header.1 = name
  · simp [same, h]
  · simp [same]

/-- A line that is added under another name. -/
theorem values_addIfMissing_of_ne {name other : String} (h : other ≠ name) (headers : Headers)
    (value : Bytes) : (headers.addIfMissing other value).values name = headers.values name := by
  rw [addIfMissing]
  split
  · rfl
  · rw [values_append, values_of_ne h, List.append_nil]

/-- **A line that is added unless there is one.** -/
theorem values_addIfMissing (headers : Headers) (name : String) (value : Bytes) :
    (headers.addIfMissing name value).values name =
      if headers.values name = [] then [value] else headers.values name := by
  rw [addIfMissing, first?]
  cases found : headers.values name with
  | nil =>
    simp only [List.head?_nil, Option.isSome_none, Bool.false_eq_true, if_false, if_true]
    rw [values_append, found, values_self, List.nil_append]
  | cons first rest => simp [found]

end Http.Headers

/-! ## Notices -/

/-- A notice holds its ID octet by octet. -/
theorem BusyNotice.encode_infix_octets (operation : Operation) (id : String) :
    Utf8.encode id <:+: octets operation id := by
  -- the message holds the ID, and is the payload of a frame
  have inside : Utf8.encode id <:+: Utf8.encode (message id) := by
    show Utf8.encode id <:+: Utf8.encode
      ("GitLab is currently unable to handle this request due to load (ID " ++ id ++ ").\n")
    rw [Utf8.encode_append, Utf8.encode_append]
    exact List.infix_append ..
  refine inside.trans ?_
  cases operation with
  | receivePack =>
    refine ⟨(Frame.banded .data report).octets ++
      PktLine.lengthField ((Utf8.encode (message id)).length + 1) ++ [2],
      Frame.flush.octets, ?_⟩
    simp [octets, frames, Frame.octets, Frame.parts, Band.octet]
  | uploadPack =>
    refine ⟨PktLine.lengthField (Utf8.encode ("ERR " ++ message id)).length ++
      Utf8.encode "ERR ", [], ?_⟩
    simp [octets, frames, Frame.octets, Frame.parts, Utf8.encode_append]

namespace Proxy

open Backend (Client Forwarded Reply)
open Http (Body Request Response)

/-! ## The request -/

/-- The ID of a request: the first that it came with, else the fresh one. -/
theorem withId_id (request : Request) (fresh : Bytes) :
    (withId request fresh).2 = (request.headers.first? idHeader).getD fresh := by
  rw [withId]
  cases request.headers.first? idHeader <;> rfl

/-- **A request under its ID** has that ID as the first of the header. -/
theorem first?_withId (request : Request) (fresh : Bytes) :
    (withId request fresh).1.headers.first? idHeader = some (withId request fresh).2 := by
  rw [withId]
  cases found : request.headers.first? idHeader with
  | some id => exact found
  | none =>
    have missing : request.headers.values idHeader = [] := List.head?_eq_none_iff.mp found
    show (Http.Headers.values (request.headers ++ [(idHeader, fresh)]) idHeader).head? = _
    rw [Http.Headers.values_append, missing, Http.Headers.values_self]
    rfl

/-- The backend gets to see the ID headers as they are. -/
theorem first?_forward {client : Client} {request : Request} {forwarded : Forwarded}
    (h : client.forward request = .ok forwarded) :
    forwarded.headers.first? idHeader = request.headers.first? idHeader := by
  rw [Client.forward] at h
  split at h
  · cases h
  · cases h
    -- of the headers only the host is replaced
    have ne : idHeader ≠ "host" := by decide
    rw [Http.Headers.first?, Http.Headers.values_append, Http.Headers.values_remove ne,
      Http.Headers.values_of_ne ne.symm, List.append_nil]
    rfl

/-- What the backend gets to see of a request under its ID. -/
theorem handleRouted_forwarded {client : Client} {request : Request} {id : String} {reply : Reply}
    {forwarded : Forwarded} (h : (handleRouted client request id reply).forwarded = some forwarded) :
    forwarded.headers.first? idHeader = request.headers.first? idHeader := by
  have seen : (client.forward request).toOption = some forwarded := by
    cases reply with
    | refused => cases h
    | unreadable => exact h
    | response response => exact h
  cases hf : client.forward request with
  | error e =>
    rw [hf] at seen
    cases seen
  | ok found =>
    rw [hf] at seen
    cases seen
    exact first?_forward hf

/-! ## The log -/

/-- All records carry an ID. -/
def Logged (id : String) (records : List Log.Record) : Prop :=
  ∀ record ∈ records, record.fields.lookup "correlation_id" = some id

/-- An event carries the ID that it is about. -/
theorem logged_event (level : Log.Level) (message id : String) (fields : List (String × String)) :
    Logged id [event level message id fields] :=
  List.forall_mem_singleton.mpr rfl

/-- The records of a refusal. In memory a notice never breaks off, so there is no report. -/
theorem refusal_logged (error : Backend.Error) (operation : Option Operation) (id : String) :
    Logged id (refusal error operation id).records := by
  cases operation with
  | none =>
    rw [refusal]
    split
    · exact logged_event _ _ _ _
    · exact logged_event _ _ _ _
  | some operation =>
    cases h : error.status?.any Status.isOverloaded with
    | true =>
      have notified := Overload.respond_memory h operation id
      simp only [refusal, notified.detected, notified.reports, if_true]
      exact logged_event _ _ _ _
    | false =>
      have ignored := Overload.respond_ignored h Sink.memory (Session.start ()) operation id
      simp only [refusal, ignored.detected, ignored.reports, Bool.false_eq_true, if_false]
      exact logged_event _ _ _ _

theorem handleRouted_logged (client : Client) (request : Request) (id : String) (reply : Reply) :
    Logged id (handleRouted client request id reply).records := by
  refine List.forall_mem_cons.mpr ⟨rfl, ?_⟩
  cases client.call request reply with
  | ok response => exact List.forall_mem_nil _
  | error error => exact refusal_logged _ _ _

/-- The answer that is finished on its way out: that of the handler, if there is a route. -/
def inside (request : Request) (fresh : Bytes) (inner : Request → String → Answer) : Answer :=
  if isRouted request then
    inner (withId request fresh).1 (CorrelationId.ofOctets (withId request fresh).2)
  else { response := emptyResponse 404 }

theorem around_eq (request : Request) (fresh : Bytes) (inner : Request → String → Answer) :
    around request fresh inner =
      { inside request fresh inner with
        response := finish (withId request fresh).1 (withId request fresh).2
          (inside request fresh inner).response
        records := span (withId request fresh).1
          (CorrelationId.ofOctets (withId request fresh).2) ::
            (inside request fresh inner).records } := by
  -- the routes are looked up once the request has its ID
  have routes : isRouted (withId request fresh).1 = isRouted request := by
    rw [isRouted, withId_target, isRouted]
  simp only [around, routes]
  rfl

/-- The span stands before all else, and carries the ID too. -/
theorem around_logged (request : Request) (fresh : Bytes) {inner : Request → String → Answer}
    (h : ∀ request id, Logged id (inner request id).records) :
    let id := CorrelationId.ofOctets (withId request fresh).2
    ∃ events, (around request fresh inner).records = span (withId request fresh).1 id :: events ∧
      Logged id ((around request fresh inner).records) := by
  intro id
  rw [around_eq]
  refine ⟨_, rfl, List.forall_mem_cons.mpr ⟨rfl, ?_⟩⟩
  show Logged id (inside request fresh inner).records
  rw [inside]
  split
  · exact h _ _
  · exact List.forall_mem_nil _

/-! ## The answer -/

/-- The ID headers of a response on its way out. -/
theorem values_finish (request : Request) (id : Bytes) (response : Response) :
    (finish request id response).headers.values idHeader =
      if response.headers.values idHeader = [] then [id] else response.headers.values idHeader := by
  -- the length that is added later is no ID
  have ne : "content-length" ≠ idHeader := by decide
  rw [← Http.Headers.values_addIfMissing, finish]
  split
  · exact Http.Headers.values_addIfMissing_of_ne ne ..
  · rfl

/-- A refusal has no ID of its own. -/
theorem values_refusal (error : Backend.Error) (operation : Option Operation) (id : String) :
    (refusal error operation id).response.headers.values idHeader = [] := by
  rw [refusal_response]
  split
  · cases operation <;> rfl
  · rfl

/-- A success is handed on that has an ID of its own. -/
def BringsOwnId (requestSecs : Nat) (request : Request) (exchange : Exchange) : Prop :=
  isRouted request = true ∧ outlasts requestSecs exchange = false ∧
    ∃ response, exchange = .reply (.response response) ∧
      Http.isSuccess response.status = true ∧ response.headers.values idHeader ≠ []

/-- Only a success that is handed on has an ID of its own. -/
theorem values_handleRouted (client : Client) (request : Request) (id : String) {reply : Reply}
    (h : ∀ response, reply = .response response → Http.isSuccess response.status = true →
      response.headers.values idHeader = []) :
    (handleRouted client request id reply).response.headers.values idHeader = [] := by
  unfold handleRouted
  simp only [Client.call_eq_result]
  rcases Client.result_cases reply with ⟨response, rfl, success, result⟩ | ⟨-, error, result, -⟩
  · rw [result]
    exact h response rfl success
  · rw [result]
    exact values_refusal ..

/-- **The ID is put on an answer** that has none of its own. -/
theorem values_around (request : Request) (fresh : Bytes) {inner : Request → String → Answer}
    (h : isRouted request = true → ∀ request id,
      (inner request id).response.headers.values idHeader = []) :
    (around request fresh inner).response.headers.values idHeader = [(withId request fresh).2] := by
  rw [around_eq]
  refine (values_finish ..).trans (if_pos ?_)
  rw [inside]
  split
  · rename_i routed
    exact h routed _ _
  · rfl

/-! ## The whole way -/

/-- How a request is answered, before and after the timeout fires. -/
theorem serve_eq_around (client : Client) (requestSecs : Nat) (request : Request) (fresh : Bytes)
    (exchange : Exchange) :
    ∃ inner, serve client requestSecs request fresh exchange = around request fresh inner ∧
      (inner = (fun request id =>
          { response := emptyResponse 408, records := [forwarding request id] }) ∨
        outlasts requestSecs exchange = false ∧ ∃ reply, exchange = .reply reply ∧
          inner = fun request id => handleRouted client request id reply) := by
  cases exchange with
  | silence => exact ⟨_, rfl, .inl rfl⟩
  | reply reply =>
    cases late : outlasts requestSecs (.reply reply) with
    | true => exact ⟨_, by rw [serve, late]; rfl, .inl rfl⟩
    | false => exact ⟨_, by rw [serve, late]; rfl, .inr ⟨rfl, reply, rfl, rfl⟩⟩

/-- What the backend gets to see of a request. -/
theorem serve_forwarded {client : Client} {requestSecs : Nat} {request : Request} {fresh : Bytes}
    {exchange : Exchange} {forwarded : Forwarded}
    (h : (serve client requestSecs request fresh exchange).forwarded = some forwarded) :
    forwarded.headers.first? idHeader = some (withId request fresh).2 := by
  obtain ⟨inner, served, course⟩ := serve_eq_around client requestSecs request fresh exchange
  rw [served, around_eq] at h
  rw [← first?_withId]
  change (inside request fresh inner).forwarded = some forwarded at h
  rw [inside] at h
  split at h
  · -- without an answer in time there is nothing to see
    rcases course with rfl | ⟨-, reply, -, rfl⟩
    · cases h
    · exact handleRouted_forwarded h
  · cases h

/-- What is logged of a request. -/
theorem serve_logged (client : Client) (requestSecs : Nat) (request : Request) (fresh : Bytes)
    (exchange : Exchange) :
    let id := CorrelationId.ofOctets (withId request fresh).2
    ∃ events, (serve client requestSecs request fresh exchange).records =
        span (withId request fresh).1 id :: events ∧
      Logged id ((serve client requestSecs request fresh exchange).records) := by
  obtain ⟨inner, served, course⟩ := serve_eq_around client requestSecs request fresh exchange
  rw [served]
  refine around_logged request fresh fun request id => ?_
  rcases course with rfl | ⟨-, reply, -, rfl⟩
  · exact logged_event _ _ _ _
  · exact handleRouted_logged _ _ _ _

/-- The notice about an overload, as it is sent. -/
theorem unfinished_overloaded {request : Request} {reply : Reply} {operation : Operation}
    (overloads : reply.Overloads) (path : Operation.ofPath? request.target.path = some operation)
    (fresh : Bytes) :
    unfinished request fresh reply = busyResponse operation (BusyNotice.octets operation
      (CorrelationId.bounded (CorrelationId.ofOctets (withId request fresh).2))) := by
  rcases Client.result_cases reply with ⟨response, rfl, success, -⟩ | ⟨-, error, result, overloaded⟩
  · obtain ⟨_, _, _, _, ⟨⟩, failed, -⟩ := overloads
    rw [success] at failed
    cases failed
  · rw [unfinished, result, path]
    exact (refusal_response ..).trans (if_pos (overloaded.mpr overloads))

/-- The ID headers of an answer, but for a success that brings its own. -/
theorem serve_values {requestSecs : Nat} {request : Request} {exchange : Exchange}
    (h : ¬ BringsOwnId requestSecs request exchange) (client : Client) (fresh : Bytes) :
    (serve client requestSecs request fresh exchange).response.headers.values idHeader =
      [(withId request fresh).2] := by
  obtain ⟨inner, served, course⟩ := serve_eq_around client requestSecs request fresh exchange
  rw [served]
  refine values_around request fresh fun routed _ _ => ?_
  rcases course with rfl | ⟨inTime, reply, rfl, rfl⟩
  · rfl
  · refine values_handleRouted _ _ _ fun response reply_eq success => ?_
    refine Classical.byContradiction fun own => ?_
    exact h ⟨routed, inTime, response, congrArg Exchange.reply reply_eq, success, own⟩

/-- A success that brings its own ID keeps it. -/
theorem serve_values_own {requestSecs : Nat} {request : Request} {response : Response}
    (routed : isRouted request = true)
    (inTime : outlasts requestSecs (.reply (.response response)) = false)
    (success : Http.isSuccess response.status = true)
    (own : response.headers.values idHeader ≠ []) (client : Client) (fresh : Bytes) :
    (serve client requestSecs request fresh (.reply (.response response))).response.headers.values
      idHeader = response.headers.values idHeader := by
  have handedOn : unfinished request fresh (.response response) = response := by
    rw [unfinished, Client.result, if_pos success]
  rw [serve, inTime, if_neg Bool.false_ne_true, handle_response routed, handedOn]
  exact (values_finish ..).trans (if_neg own)

/-- **One ID is used throughout.** It is the first that the client sent, else a fresh one of
32 hexadecimal digits. Then:

- it is the first ID that the backend gets to see;
- the records of the answer are a span and events, and all of them carry its text;
- a busy notice holds the bounded text;
- it is the one ID on the answer, unless a success is handed on that has its own. Such a
  success keeps what it has. -/
theorem serve_keeps_id (client : Client) (requestSecs : Nat) (request : Request) (entropy : Nat)
    (exchange : Exchange) :
    let fresh := Utf8.encode (CorrelationId.fresh entropy)
    let id := (request.headers.first? idHeader).getD fresh
    let shown := Utf8.decodeLossy id
    let answer := serve client requestSecs request fresh exchange
    (fresh.length = 32 ∧ ∀ b ∈ fresh, ∃ value < 16, b = Hex.digit value) ∧
    (∀ forwarded, answer.forwarded = some forwarded →
      forwarded.headers.first? idHeader = some id) ∧
    (∃ events, answer.records = span (withId request fresh).1 shown :: events) ∧
    (∀ record ∈ answer.records, record.fields.lookup "correlation_id" = some shown) ∧
    (∀ reply operation, exchange = .reply reply → isRouted request = true →
      outlasts requestSecs exchange = false → reply.Overloads →
      Operation.ofPath? request.target.path = some operation →
      let notice := BusyNotice.octets operation (CorrelationId.bounded shown)
      answer.response.body = delivered request { octets := notice } ∧
        Utf8.encode (CorrelationId.bounded shown) <:+: notice) ∧
    (¬ BringsOwnId requestSecs request exchange →
      answer.response.headers.values idHeader = [id]) ∧
    (∀ response, exchange = .reply (.response response) → isRouted request = true →
      outlasts requestSecs exchange = false → Http.isSuccess response.status = true →
      response.headers.values idHeader ≠ [] →
      answer.response.headers.values idHeader = response.headers.values idHeader) := by
  intro fresh id shown answer
  have same : (withId request fresh).2 = id := withId_id request fresh
  obtain ⟨events, records, logged⟩ :=
    serve_logged client requestSecs request fresh exchange
  rw [same] at records logged
  refine ⟨CorrelationId.encode_fresh_digits entropy, fun forwarded seen => ?_,
    ⟨events, records⟩, logged, ?_, fun h => ?_, ?_⟩
  · rw [← same]
    exact serve_forwarded seen
  · rintro reply operation rfl routed inTime overloads path notice
    have sent := (serve_status_body routed inTime client fresh).2
    rw [unfinished_overloaded overloads path, same] at sent
    exact ⟨sent, BusyNotice.encode_infix_octets ..⟩
  · rw [← same]
    exact serve_values h client fresh
  · rintro response rfl routed inTime success own
    exact serve_values_own routed inTime success own client fresh

/-- A fetch is handed on with the ID of the backend: its client does not find its own. -/
theorem own_id_is_handed_on :
    let request : Request := {
      method := "POST"
      target := ⟨none, none, some "/group/project.git/git-upload-pack"⟩
      headers := [("x-request-id", Utf8.encode "abc123")]
      body := [] }
    let reply : Reply := .response ⟨200, [("x-request-id", Utf8.encode "backend-7")],
      { octets := Utf8.encode "0008NAK\n" }⟩
    let answer := serve ⟨"backend:80"⟩ 600 request (Utf8.encode (CorrelationId.fresh 0)) (.reply reply)
    answer.response.headers.values idHeader = [Utf8.encode "backend-7"] ∧
      ¬ ∀ (client : Client) (requestSecs : Nat) (request : Request) (entropy : Nat)
        (exchange : Exchange),
        let fresh := Utf8.encode (CorrelationId.fresh entropy)
        (serve client requestSecs request fresh exchange).response.headers.first? idHeader =
          some ((request.headers.first? idHeader).getD fresh) := by
  intro request reply answer
  have handedOn : answer.response.headers.values idHeader = [Utf8.encode "backend-7"] := by
    decide +kernel
  refine ⟨handedOn, fun all => ?_⟩
  have echoed : answer.response.headers.first? idHeader = some (Utf8.encode "abc123") :=
    all ⟨"backend:80"⟩ 600 request 0 (.reply reply)
  rw [Http.Headers.first?, handedOn] at echoed
  exact absurd echoed (by decide)

end Proxy

end GitGateway
