import GitGateway.Proofs.Correlation

/-!
# What a client learns of a failure

The backend's side of a failure is none of the client's business: its status, its headers,
the code, the message and the details that it sent, or that it could not be reached at all.
A client learns one bit, whether the backend had no capacity left.

- `Proxy.handleRouted_response_eq`: the step, one request under one ID and two failures;
- `Proxy.around_response_eq`: what is done around the handler asks for nothing but its
  response, so responses that are the same stay so on their way out;
- `Proxy.failures_look_alike`: **two failures that agree on that bit are answered by the same
  response**, octet by octet and header by header.

This is about the response alone. What is logged tells the failures apart, as it should.
-/

namespace GitGateway.Proxy

open Backend (Client Reply)
open Http (Request Response)

/-- Two failures of a call, under the same ID. The two calls may take different courses all
the way, such as a connection that was refused against a body that is no status. -/
theorem handleRouted_response_eq {a b : Reply} (failed : a.isFailure = true)
    (failed' : b.isFailure = true) (same : a.Overloads ↔ b.Overloads) (client client' : Client)
    (request : Request) (id : String) :
    (handleRouted client request id a).response = (handleRouted client' request id b).response := by
  obtain ⟨error, result, overloaded⟩ := Client.result_of_isFailure failed
  obtain ⟨error', result', overloaded'⟩ := Client.result_of_isFailure failed'
  have bit : error.status?.any Status.isOverloaded = error'.status?.any Status.isOverloaded :=
    Bool.eq_iff_iff.mpr (overloaded.trans (same.trans overloaded'.symm))
  -- each response is that of a refusal, which looks at nothing else of its error
  have answer : ∀ error client reply, Client.result reply = .error error →
      (handleRouted client request id reply).response =
        (refusal error (Operation.ofPath? request.target.path) id).response := by
    intro error client reply result
    simp only [handleRouted, Client.call_eq_result, result]
  rw [answer error client a result, answer error' client' b result', refusal_response,
    refusal_response, bit]

/-- Around the handler nothing is asked for but its response. -/
theorem around_response_eq {inner inner' : Request → String → Answer}
    (same : ∀ request id, (inner request id).response = (inner' request id).response)
    (request : Request) (fresh : Bytes) :
    (around request fresh inner).response = (around request fresh inner').response := by
  have inside_eq : (inside request fresh inner).response =
      (inside request fresh inner').response := by
    unfold inside
    split
    · exact same _ _
    · rfl
  rw [around_eq, around_eq, inside_eq]

/-- **Failures look alike.** Two replies that are no success and agree on whether the backend
had no capacity left are answered by the same response, with the same status, headers and
body, whatever else they are; and so they are under a request timeout, if it fires for
both or for none. -/
theorem failures_look_alike {a b : Reply} (failed : a.isFailure = true)
    (failed' : b.isFailure = true) (same : a.Overloads ↔ b.Overloads) (client client' : Client)
    (request : Request) (fresh : Bytes) :
    (handle client request fresh a).response = (handle client' request fresh b).response ∧
    ∀ requestSecs, outlasts requestSecs (.reply a) = outlasts requestSecs (.reply b) →
      (serve client requestSecs request fresh (.reply a)).response =
        (serve client' requestSecs request fresh (.reply b)).response := by
  have handled : (handle client request fresh a).response =
      (handle client' request fresh b).response :=
    around_response_eq (handleRouted_response_eq failed failed' same client client') request fresh
  refine ⟨handled, fun requestSecs timing => ?_⟩
  rw [serve, serve, timing]
  split
  · rfl
  · exact handled

/-- Two overloads that have nothing in common but the limit: not the HTTP status, the
headers, the code, the message, the wait, the other details or the way they are spelled. -/
theorem two_overloads_look_alike :
    let request : Request := {
      method := "POST"
      target := ⟨none, none, some "/group/project.git/git-upload-pack"⟩
      headers := [("x-request-id", Utf8.encode "abc123")]
      body := [] }
    let object := Utf8.encode ("\x7b\"code\": \"?\", \"details\": [\x7b\"@type\": " ++
      "\"type.googleapis.com/gitaly.LimitError\", \"retry_after_secs\": 9\x7d]\x7d")
    let array := Utf8.encode
      "[\"ABORTED\", \"full\", [7, \x7b\"@type\": \"type.googleapis.com/gitaly.LimitError\"\x7d]]"
    let a : Reply := .response ⟨429, [("retry-after", Utf8.encode "9")], { octets := object }⟩
    let b : Reply := .response ⟨500, [("x-request-id", Utf8.encode "b-7")], { octets := array }⟩
    a.isFailure = true ∧ b.isFailure = true ∧ a.Overloads ∧ b.Overloads ∧
      outlasts 600 (.reply a) = outlasts 600 (.reply b) ∧
      (serve ⟨"backend:80"⟩ 600 request [] (.reply a)).response =
        (serve ⟨"other:81"⟩ 600 request [] (.reply b)).response := by
  intro request object array a b
  have overloads : a.Overloads :=
    ⟨_, ⟨.unknown, "", [.limitReached "" 9]⟩, "", 9, rfl, by decide, rfl, by decide +kernel,
      by decide +kernel, by decide⟩
  have overloads' : b.Overloads :=
    ⟨_, ⟨.aborted, "full", [.other, .limitReached "" 0]⟩, "", 0, rfl, by decide, rfl,
      by decide, by decide +kernel, by decide⟩
  have failed : a.isFailure = true := by decide
  have failed' : b.isFailure = true := by decide
  have timing : outlasts 600 (.reply a) = outlasts 600 (.reply b) := by decide
  have alike := failures_look_alike failed failed' (iff_of_true overloads overloads')
    ⟨"backend:80"⟩ ⟨"other:81"⟩ request []
  exact ⟨failed, failed', overloads, overloads', timing, alike.2 600 timing⟩

end GitGateway.Proxy
