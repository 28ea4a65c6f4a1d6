import GitGateway.Proofs.Overload
import GitGateway.Proxy

/-!
# What a client is answered

The answer to a routed request, told from the reply of the backend alone.

- `Backend.Reply.Overloads`: the one kind of failed reply that is told apart from the
  others, by its size, its completeness and its details;
- `Proxy.refusal_response`: a failed call has one of three answers, and which one hangs
  on that kind and on the path. The detector looks at it for a Git operation and the
  status itself is asked for any other path, but both ask the same of it;
- `Proxy.serve_answers`: the whole way, from the request to what the client gets.
-/

namespace GitGateway

/-! ## Replies -/

namespace Backend

/-- A reply that says that there is no capacity left: a failure, complete and not too
long, that spells a status with a reached limit among its details. -/
def Reply.Overloads (reply : Reply) : Prop :=
  ∃ response status message retryAfter, reply = .response response ∧
    Http.isSuccess response.status = false ∧
    response.body.complete = true ∧ response.body.octets.length ≤ maxErrorBody ∧
    Status.read? response.body.octets = some status ∧
    Detail.limitReached message retryAfter ∈ status.details

/-- Whether a reply is no success: there was no connection, no response that can be read,
or a response of another status. -/
def Reply.isFailure : Reply → Bool
  | .response answer => !Http.isSuccess answer.status
  | .refused | .unreadable => true

namespace Client

/-- A request can always be addressed to the backend. -/
theorem call_eq_result (client : Client) (request : Http.Request) (reply : Reply) :
    client.call request reply = result reply := rfl

/-- What stands in for a status that cannot be read is no overload. -/
theorem isOverloaded_ofAnswer (httpStatus : Nat) (body : Bytes) :
    (Status.ofAnswer httpStatus body).isOverloaded =
      (Status.read? body).any Status.isOverloaded := by
  rw [Status.ofAnswer]
  cases Status.read? body <;> rfl

/-- The error of a failed response is an overload exactly for the replies that say so. -/
theorem failed_overloaded_iff {response : Http.Response}
    (h : Http.isSuccess response.status = false) :
    (failed response).status?.any Status.isOverloaded = true ↔
      (Reply.response response).Overloads := by
  rw [failed]
  by_cases long : maxErrorBody < response.body.octets.length
  · rw [if_pos long]
    refine ⟨nofun, ?_⟩
    rintro ⟨_, status, message, retryAfter, ⟨⟩, -, -, short, -⟩
    exact absurd long (Nat.not_lt.mpr short)
  rw [if_neg long]
  cases complete : response.body.complete with
  | false =>
    refine ⟨nofun, ?_⟩
    rintro ⟨_, status, message, retryAfter, ⟨⟩, -, whole, -⟩
    rw [complete] at whole
    cases whole
  | true =>
    show (Status.ofAnswer response.status response.body.octets).isOverloaded = true ↔ _
    rw [isOverloaded_ofAnswer, Option.any_eq_true]
    constructor
    · rintro ⟨status, read, overloaded⟩
      obtain ⟨detail, hmem, limit⟩ := List.any_eq_true.mp overloaded
      cases detail with
      | limitReached message retryAfter =>
        exact ⟨response, status, message, retryAfter, rfl, h, complete, Nat.le_of_not_lt long,
          read, hmem⟩
      | other => cases limit
    · rintro ⟨_, status, message, retryAfter, ⟨⟩, -, -, -, read, hmem⟩
      exact ⟨status, read, List.any_eq_true.mpr ⟨_, hmem, rfl⟩⟩

/-- **The three kinds of replies**: a success is handed on, and every other reply is an
error, which is an overload exactly for the replies that say so. -/
theorem result_cases (reply : Reply) :
    (∃ response, reply = .response response ∧ Http.isSuccess response.status = true ∧
      result reply = .ok response) ∨
    (∀ response, reply = .response response → Http.isSuccess response.status = false) ∧
      ∃ error, result reply = .error error ∧
        (error.status?.any Status.isOverloaded = true ↔ reply.Overloads) := by
  cases reply with
  | refused => exact .inr ⟨nofun, _, rfl, nofun, nofun⟩
  | unreadable => exact .inr ⟨nofun, _, rfl, nofun, nofun⟩
  | response response =>
    cases h : Http.isSuccess response.status with
    | true => exact .inl ⟨response, rfl, h, by rw [result, h]; rfl⟩
    | false =>
      refine .inr ⟨?_, failed response, by rw [result, h]; rfl, failed_overloaded_iff h⟩
      rintro _ ⟨⟩
      exact h

/-- A reply that is no failure is handed on. -/
theorem result_of_success {reply : Reply} (h : reply.isFailure = false) :
    ∃ response, reply = .response response ∧ Http.isSuccess response.status = true ∧
      result reply = .ok response := by
  cases reply with
  | refused | unreadable => cases h
  | response response =>
    have success : Http.isSuccess response.status = true := by simpa [Reply.isFailure] using h
    exact ⟨response, rfl, success, if_pos success⟩

/-- A failure is an error, which is an overload exactly for the replies that say so. -/
theorem result_of_isFailure {reply : Reply} (h : reply.isFailure = true) :
    ∃ error, result reply = .error error ∧
      (error.status?.any Status.isOverloaded = true ↔ reply.Overloads) := by
  rcases result_cases reply with ⟨response, rfl, success, -⟩ | ⟨-, error⟩
  · rw [Reply.isFailure, success] at h
    cases h
  · exact error

end Client

end Backend

/-! ## Answers -/

namespace Proxy

open Backend (Client Reply)
open Http (Body Request Response)

/-- **The answer to a failed call.** -/
theorem refusal_response (error : Backend.Error) (operation : Option Operation) (id : String) :
    (refusal error operation id).response =
      if error.status?.any Status.isOverloaded then
        match operation with
        | some operation =>
          busyResponse operation (BusyNotice.octets operation (CorrelationId.bounded id))
        | none => textResponse 503 "Backend is overloaded, try again later"
      else textResponse 502 "Backend request failed" := by
  cases h : error.status?.any Status.isOverloaded with
  | true =>
    cases operation with
    | some operation =>
      have notified := Overload.respond_memory h operation id
      simp only [refusal, notified.detected, notified.written, if_true]
    | none => simp only [refusal, h, if_true]
  | false =>
    cases operation with
    | some operation =>
      have ignored := Overload.respond_ignored h Sink.memory (Session.start ()) operation id
      simp only [refusal, ignored.detected, Bool.false_eq_true, if_false]
      rfl
    | none =>
      simp only [refusal, h, Bool.false_eq_true, if_false]
      rfl

/-- The body that is delivered for a body that is sent: none in an answer to `HEAD`. -/
def delivered (request : Request) (body : Body) : Body :=
  if request.method = "HEAD" then { octets := [] } else body

@[simp] theorem withId_target (request : Request) (fresh : Bytes) :
    (withId request fresh).1.target = request.target := by
  unfold withId
  split <;> rfl

@[simp] theorem withId_method (request : Request) (fresh : Bytes) :
    (withId request fresh).1.method = request.method := by
  unfold withId
  split <;> rfl

/-- The response to a routed request, as it is before it goes out. -/
def unfinished (request : Request) (fresh : Bytes) (reply : Reply) : Response :=
  match Client.result reply with
  | .ok response => response
  | .error error => (refusal error (Operation.ofPath? request.target.path)
      (CorrelationId.ofOctets (withId request fresh).2)).response

theorem handle_response {request : Request} (routed : isRouted request = true) (client : Client)
    (fresh : Bytes) (reply : Reply) :
    (handle client request fresh reply).response =
      finish (withId request fresh).1 (withId request fresh).2
        (unfinished request fresh reply) := by
  -- the ID is put into the headers, and the routes are looked up after that
  have routed' : isRouted (withId request fresh).1 = true := by
    rwa [isRouted, withId_target]
  simp only [handle, around, routed', if_true, handleRouted, withId_target,
    Backend.Client.call_eq_result, unfinished]
  cases Client.result reply <;> rfl

/-- What is done to a response on its way out leaves its status and its body. -/
theorem finish_status_body (request : Request) (fresh id : Bytes) (response : Response) :
    (finish (withId request fresh).1 id response).status = response.status ∧
      (finish (withId request fresh).1 id response).body = delivered request response.body := by
  constructor
  · rfl
  · show (if (withId request fresh).1.method = "HEAD" then { octets := [] } else response.body) = _
    rw [withId_method, delivered]

/-- **In time, the unfinished response is what the client gets.** -/
theorem serve_status_body {request : Request} {requestSecs : Nat} {reply : Reply}
    (routed : isRouted request = true) (inTime : outlasts requestSecs (.reply reply) = false)
    (client : Client) (fresh : Bytes) :
    let answer := (serve client requestSecs request fresh (.reply reply)).response
    answer.status = (unfinished request fresh reply).status ∧
      answer.body = delivered request (unfinished request fresh reply).body := by
  intro answer
  have served : answer = (handle client request fresh reply).response := by
    show (serve client requestSecs request fresh (.reply reply)).response = _
    rw [serve, inTime]
    rfl
  rw [served, handle_response routed]
  exact finish_status_body ..

/-- **What the client of a routed request is answered**, as long as the request timeout
does not fire:

- a success is handed on, with its status and its body, whatever the body spells;
- a reply that says that there is no capacity left is answered by a busy notice about the
  request's ID where the path names a Git operation, and by 503 where it does not;
- every other reply is answered by 502. -/
theorem serve_answers {request : Request} {requestSecs : Nat} {reply : Reply}
    (routed : isRouted request = true) (inTime : outlasts requestSecs (.reply reply) = false)
    (client : Client) (fresh : Bytes) :
    let answer := (serve client requestSecs request fresh (.reply reply)).response
    let shown := CorrelationId.bounded (CorrelationId.ofOctets (withId request fresh).2)
    (∀ response, reply = .response response → Http.isSuccess response.status = true →
      answer.status = response.status ∧ answer.body = delivered request response.body) ∧
    (reply.Overloads → match Operation.ofPath? request.target.path with
      | some operation => answer.status = 200 ∧
        answer.body = delivered request { octets := BusyNotice.octets operation shown }
      | none => answer.status = 503 ∧ answer.body = delivered request
        { octets := Utf8.encode "Backend is overloaded, try again later" }) ∧
    (¬ reply.Overloads →
      (∀ response, reply = .response response → Http.isSuccess response.status = false) →
      answer.status = 502 ∧
        answer.body = delivered request { octets := Utf8.encode "Backend request failed" }) := by
  intro answer shown
  have served : answer.status = (unfinished request fresh reply).status ∧
      answer.body = delivered request (unfinished request fresh reply).body :=
    serve_status_body routed inTime client fresh
  rcases Client.result_cases reply with
    ⟨response, rfl, success, result⟩ | ⟨failure, error, result, overloaded⟩
  · -- a success: the other two kinds are replies that failed
    have sent : unfinished request fresh (.response response) = response := by
      rw [unfinished, result]
    rw [sent] at served
    refine ⟨?_, ?_, ?_⟩
    · rintro _ ⟨⟩ -
      exact served
    · rintro ⟨_, _, _, _, ⟨⟩, failed, -⟩
      rw [success] at failed
      cases failed
    · intro _ failed
      rw [failed response rfl] at success
      cases success
  · -- a failure: what is sent is the refusal of its error
    rw [unfinished, result] at served
    simp only [refusal_response] at served
    refine ⟨?_, ?_, ?_⟩
    · intro response reply_eq success
      rw [failure response reply_eq] at success
      cases success
    · intro overloads
      rw [if_pos (overloaded.mpr overloads)] at served
      cases hpath : Operation.ofPath? request.target.path with
      | some operation =>
        rw [hpath] at served
        exact served
      | none =>
        rw [hpath] at served
        exact served
    · intro ordinary _
      rw [if_neg fun h => ordinary (overloaded.mp h)] at served
      exact served

/-- An overloaded backend under a push with an ID outside of ASCII. The reply's HTTP
status plays no part. -/
theorem overloaded_push_is_told :
    let request : Request := {
      method := "POST"
      target := ⟨none, none, some "/group/project.git/git-receive-pack"⟩
      headers := [("x-request-id", Utf8.encode "réf")]
      body := [] }
    let status := Utf8.encode
      "[\"OK\", \"\", [7, \x7b\"@type\": \"type.googleapis.com/gitaly.LimitError\"\x7d]]"
    let reply : Reply := .response ⟨418, [], { octets := status }⟩
    isRouted request = true ∧ outlasts 600 (.reply reply) = false ∧ reply.Overloads ∧
      (serve ⟨"backend:80"⟩ 600 request [] (.reply reply)).response.status = 200 := by
  intro request status reply
  have routed : isRouted request = true := by decide +kernel
  have inTime : outlasts 600 (.reply reply) = false := by decide
  have overloads : reply.Overloads :=
    ⟨_, ⟨.ok, "", [.other, .limitReached "" 0]⟩, "", 0, rfl, by decide, rfl, by decide,
      by decide +kernel, by decide⟩
  have push : Operation.ofPath? request.target.path = some .receivePack := by decide
  have answer := (serve_answers routed inTime ⟨"backend:80"⟩ []).2.1 overloads
  rw [push] at answer
  exact ⟨routed, inTime, overloads, answer.1⟩

end Proxy

end GitGateway
