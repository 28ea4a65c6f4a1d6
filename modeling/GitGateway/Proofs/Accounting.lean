import GitGateway.Proofs.Discretion
import GitGateway.Proofs.StatusForm
import Mathlib.Algebra.BigOperators.Group.List.Lemmas
import Mathlib.Algebra.Ring.Nat

/-!
# The accounts of a run

What the counters add up to after any number of requests, told from the requests alone.

- `Counter.sumOf`: the sum of the totals of some series, as it is read off a table of totals;
- `Counter.addAll_tally`: a table that is kept up to date is the tally of all increments so
  far, so a sum over it is a number of increments (`Counter.sumOf_tally`);
- `Visit`: a request with what came of its call, and how it was answered. `Visit.error?` is
  the error of the call, `Visit.isBusy` whether the answer was a busy notice of the proxy's;
- `Visit.answer_counters`: the step, what one request adds to the table;
- `Proxy.totals_account`: the run. **Every failed call is counted once, under its code, and
  every busy notice once, under its operation**, and nothing else is counted.

A success is handed on whatever its body holds, so one that looks like a busy notice is no
notice and is not counted as one.
-/

namespace GitGateway

/-! ## Tables of totals -/

namespace Counter

/-- The sum of the totals of those series for which `p` holds. -/
def sumOf (totals : List (Counter × Nat)) (p : Counter → Bool) : Nat :=
  ((totals.filter fun row => p row.1).map Prod.snd).sum

/-- The total of the series with a name and a label. -/
def total (totals : List (Counter × Nat)) (name : String) (label : String × String) : Nat :=
  sumOf totals fun counter => counter.name == name && counter.label == label

/-- The total of all series with a name. -/
def family (totals : List (Counter × Nat)) (name : String) : Nat :=
  sumOf totals fun counter => counter.name == name

/-- No two operations have the same service. -/
theorem service_injective {a b : Operation} (h : a.service = b.service) : a = b := by
  cases a <;> cases b <;> first | rfl | exact absurd h (by decide)

/-- A series is told by its name and its label. -/
theorem series_iff (a b : Counter) : (a.name == b.name && a.label == b.label) = (a == b) := by
  rw [Bool.eq_iff_iff, Bool.and_eq_true, beq_iff_eq, beq_iff_eq, beq_iff_eq]
  have names : "git_overload_responses_total" ≠ "git_backend_errors_total" := by decide
  constructor
  · rintro ⟨name, label⟩
    cases a with
    | busyNotice operation => cases b with
      | busyNotice operation' =>
        exact congrArg busyNotice (service_injective (Prod.mk.inj label).2)
      | backendError code => exact absurd name names
    | backendError code => cases b with
      | busyNotice operation => exact absurd name.symm names
      | backendError code' => exact congrArg backendError (Prod.mk.inj label).2
  · rintro rfl
    exact ⟨rfl, rfl⟩

/-- Adding more increments to a tally is the tally of all of them. -/
theorem addAll_tally (before more : List Counter) :
    addAll (tally before) more = tally (before ++ more) := by
  induction more generalizing before with
  | nil => rw [List.append_nil, addAll, List.foldl_nil]
  | cons counter rest ih =>
    have step : addAll (tally before) (counter :: rest) =
        addAll (tally (before ++ [counter])) rest := by
      rw [addAll, List.foldl_cons, ← tally_concat]
      rfl
    rw [step, ih, List.append_assoc, List.singleton_append]

/-- A tally has one row for each series. -/
theorem nodup_eraseDups (increments : List Counter) : increments.eraseDups.Nodup := by
  induction increments using List.reverseRecOn with
  | nil => exact List.nodup_nil
  | append_singleton rest counter ih =>
    by_cases h : counter ∈ rest
    · rw [eraseDups_concat_of_mem h]
      exact ih
    · rw [eraseDups_concat_of_not_mem h]
      refine List.nodup_append.mpr ⟨ih, List.nodup_singleton _, ?_⟩
      rintro _ mem _ last rfl
      obtain rfl := List.mem_singleton.mp last
      exact h (List.mem_eraseDups.mp mem)

/-- **A sum over a tally is a number of increments.** -/
theorem sumOf_tally (increments : List Counter) (p : Counter → Bool) :
    sumOf (tally increments) p = increments.countP p := by
  have rows : increments.eraseDups.Perm increments.dedup := by
    refine (List.perm_ext_iff_of_nodup (nodup_eraseDups _) (List.nodup_dedup _)).mpr ?_
    intro counter
    rw [List.mem_eraseDups, List.mem_dedup]
  have column : ((tally increments).filter fun row => p row.1).map Prod.snd =
      (increments.eraseDups.filter p).map fun counter => increments.count counter := by
    rw [tally, List.filter_map, List.map_map]
    rfl
  rw [sumOf, column, ((rows.filter p).map _).sum_nat,
    List.sum_map_count_dedup_filter_eq_countP]

theorem total_tally (increments : List Counter) (counter : Counter) :
    total (tally increments) counter.name counter.label = increments.count counter := by
  simp only [total, sumOf_tally, series_iff, List.count]

/-- A tally does not depend on the order of the increments, but for the order of its rows. -/
theorem tally_perm {increments reordered : List Counter} (h : reordered.Perm increments) :
    (tally reordered).Perm (tally increments) := by
  have rows : reordered.eraseDups.Perm increments.eraseDups := by
    refine (List.perm_ext_iff_of_nodup (nodup_eraseDups _) (nodup_eraseDups _)).mpr ?_
    intro counter
    rw [List.mem_eraseDups, List.mem_eraseDups, h.mem_iff]
  have column : ∀ counter, (counter, reordered.count counter) =
      (counter, increments.count counter) := by
    intro counter
    rw [h.count_eq]
  rw [tally, tally, List.map_congr_left fun counter _ => column counter]
  exact rows.map _

end Counter

/-- Elements that add at most one each add as many as there are that add one. -/
theorem countP_flatMap_eq {α β : Type} {f : α → List β} {p : β → Bool} {q : α → Bool}
    {xs : List α} (h : ∀ x ∈ xs, (f x).countP p = if q x then 1 else 0) :
    (xs.flatMap f).countP p = xs.countP q := by
  induction xs with
  | nil => rfl
  | cons x xs ih =>
    obtain ⟨here, later⟩ := List.forall_mem_cons.mp h
    rw [List.flatMap_cons, List.countP_append, here, ih later, List.countP_cons, Nat.add_comm]

namespace Proxy

open Backend (Client Reply)
open Http (Request Response)

/-! ## The counters of one answer -/

/-- No status is counted as a failure without one. -/
theorem name_ne_transport (code : Code) : code.name ≠ "TRANSPORT" := by
  cases code <;> decide

/-- A failed call is counted under the code of its status. -/
theorem errorLabel_beq_name (error : Backend.Error) (code : Code) :
    (errorLabel error == code.name) =
      error.status?.any fun status => status.code == code := by
  rw [errorLabel, Bool.eq_iff_iff, beq_iff_eq]
  cases error.status? with
  | none => simpa using (name_ne_transport code).symm
  | some status =>
    have injective : Function.Injective Code.name := Function.LeftInverse.injective Code.ofName_name
    simpa using injective.eq_iff

/-- A failed call without a status has a label of its own. -/
theorem errorLabel_beq_transport (error : Backend.Error) :
    (errorLabel error == "TRANSPORT") = error.status?.isNone := by
  rw [errorLabel, Bool.eq_iff_iff, beq_iff_eq]
  cases error.status? with
  | none => simp
  | some status => simpa using name_ne_transport status.code

/-- A refusal counts the error, and the notice if it is one. -/
theorem refusal_counters (error : Backend.Error) (operation : Option Operation) (id : String) :
    (refusal error operation id).counters = .backendError (errorLabel error) ::
      if error.status?.any Status.isOverloaded then operation.toList.map Counter.busyNotice
      else [] := by
  cases h : error.status?.any Status.isOverloaded with
  | true =>
    cases operation with
    | some operation =>
      have notified := Overload.respond_memory h operation id
      simp only [refusal, notified.detected, notified.counters, if_true]
      rfl
    | none =>
      simp only [refusal, h, if_true]
      rfl
  | false =>
    cases operation with
    | some operation =>
      have ignored := Overload.respond_ignored h Sink.memory (Session.start ()) operation id
      simp only [refusal, ignored.detected, ignored.counters, Bool.false_eq_true, if_false]
      rfl
    | none =>
      simp only [refusal, h, Bool.false_eq_true, if_false]
      rfl

/-- What is done to a response on its way out leaves the other headers. -/
theorem values_finish_of_ne {name : String} (notId : idHeader ≠ name)
    (notLength : "content-length" ≠ name) (request : Request) (id : Bytes)
    (response : Response) :
    (finish request id response).headers.values name = response.headers.values name := by
  rw [finish]
  split
  · rw [Http.Headers.values_addIfMissing_of_ne notLength,
      Http.Headers.values_addIfMissing_of_ne notId]
  · exact Http.Headers.values_addIfMissing_of_ne notId ..

/-- A request, with the fresh ID it may get and what came of its call. -/
structure Visit where
  request : Request
  fresh : Bytes
  reply : Reply

namespace Visit

/-- The answer to a request. -/
def answer (client : Client) (requestSecs : Nat) (visit : Visit) : Answer :=
  serve client requestSecs visit.request visit.fresh (.reply visit.reply)

/-- The table of totals after one more request. -/
def record (client : Client) (requestSecs : Nat) (totals : List (Counter × Nat))
    (visit : Visit) : List (Counter × Nat) :=
  Counter.addAll totals (visit.answer client requestSecs).counters

/-- The error of the call, if there was a call and it failed. -/
def error? (client : Client) (visit : Visit) : Option Backend.Error :=
  if isRouted visit.request then
    match client.call (withId visit.request visit.fresh).1 visit.reply with
    | .ok _ => none
    | .error error => some error
  else none

/-- The call failed with a status of that code. -/
def failedWith (client : Client) (code : Code) (visit : Visit) : Bool :=
  (visit.error? client).any fun error => error.status?.any fun status => status.code == code

/-- The call failed without a status. -/
def failedWithout (client : Client) (visit : Visit) : Bool :=
  (visit.error? client).any fun error => error.status?.isNone

/-- The busy notice about an operation, as it goes out under the ID of the request. -/
def notice (operation : Operation) (visit : Visit) : Response :=
  let shown := CorrelationId.bounded
    (CorrelationId.ofOctets (withId visit.request visit.fresh).2)
  finish (withId visit.request visit.fresh).1 (withId visit.request visit.fresh).2
    (busyResponse operation (BusyNotice.octets operation shown))

/-- The request was answered by a busy notice, and not by a success of the backend. -/
def isBusy (client : Client) (requestSecs : Nat) (operation : Operation) (visit : Visit) : Bool :=
  visit.reply.isFailure && (visit.answer client requestSecs).response == visit.notice operation

/-- The status of the answer. -/
def status (client : Client) (requestSecs : Nat) (visit : Visit) : Nat :=
  (visit.answer client requestSecs).response.status

variable {client : Client} {requestSecs : Nat} {visit : Visit}

theorem error?_eq_some_iff {error : Backend.Error} : visit.error? client = some error ↔
    isRouted visit.request = true ∧ Client.result visit.reply = .error error := by
  rw [error?, Client.call_eq_result]
  cases isRouted visit.request with
  | false => simp
  | true => cases Client.result visit.reply <;> simp

/-- A call failed if it was made and its reply is a failure. -/
theorem error?_eq_none_iff : visit.error? client = none ↔
    isRouted visit.request = false ∨ visit.reply.isFailure = false := by
  cases routed : isRouted visit.request with
  | false => simp [error?, routed]
  | true => cases failed : visit.reply.isFailure with
    | false =>
      obtain ⟨response, -, -, result⟩ := Client.result_of_success failed
      simp [error?, routed, Client.call_eq_result, result]
    | true =>
      obtain ⟨error, result, -⟩ := Client.result_of_isFailure failed
      simp [error?_eq_some_iff.mpr ⟨routed, result⟩]

/-- In time, a request is answered by the handler. -/
theorem answer_eq_around (inTime : outlasts requestSecs (.reply visit.reply) = false) :
    visit.answer client requestSecs = around visit.request visit.fresh fun request id =>
      handleRouted client request id visit.reply := by
  rw [answer, serve, inTime]
  rfl

/-- The answer to a request whose call failed, and what it counts. -/
theorem answer_of_error {error : Backend.Error} (failed : visit.error? client = some error)
    (inTime : outlasts requestSecs (.reply visit.reply) = false) :
    let refused := refusal error (Operation.ofPath? visit.request.target.path)
      (CorrelationId.ofOctets (withId visit.request visit.fresh).2)
    (visit.answer client requestSecs).response = finish (withId visit.request visit.fresh).1
      (withId visit.request visit.fresh).2 refused.response ∧
    (visit.answer client requestSecs).counters = refused.counters := by
  intro refused
  obtain ⟨routed, result⟩ := error?_eq_some_iff.mp failed
  rw [answer_eq_around inTime, around_eq, inside, if_pos routed]
  simp only [handleRouted, Client.call_eq_result, result, withId_target]
  exact ⟨rfl, rfl⟩

/-- The answer to any other request is a success that is handed on, or 404 where there is no
route, and counts nothing. -/
theorem answer_of_no_error (unfailed : visit.error? client = none)
    (inTime : outlasts requestSecs (.reply visit.reply) = false) :
    (visit.answer client requestSecs).counters = [] ∧
      (visit.status client requestSecs = 404 ∧ isRouted visit.request = false ∨
        Http.isSuccess (visit.status client requestSecs) = true ∧
          visit.reply.isFailure = false) := by
  rw [status, answer_eq_around inTime, around_eq, inside]
  cases routed : isRouted visit.request with
  | false => exact ⟨rfl, .inl ⟨rfl, rfl⟩⟩
  | true =>
    rcases error?_eq_none_iff.mp unfailed with unrouted | success
    · rw [routed] at unrouted
      cases unrouted
    · obtain ⟨response, -, isSuccess, result⟩ := Client.result_of_success success
      simp only [if_true, handleRouted, Client.call_eq_result, result]
      exact ⟨trivial, .inr ⟨isSuccess, success⟩⟩

/-- The notices about the two operations differ in their content types. -/
theorem notice_injective {a b : Operation} (same : visit.notice a = visit.notice b) : a = b := by
  have type : ∀ operation, (visit.notice operation).headers.values "content-type" =
      [Utf8.encode operation.resultType] := by
    intro operation
    exact values_finish_of_ne (by decide) (by decide) _ _ _
  have types : Utf8.encode a.resultType = Utf8.encode b.resultType := by
    have headers := congrArg (fun response => response.headers.values "content-type") same
    rw [type, type] at headers
    exact List.head_eq_of_cons_eq headers
  cases a <;> cases b <;> first | rfl | exact absurd types (by decide)

/-- **A busy notice** is the answer to a call that failed for lack of capacity, where the path
names an operation. -/
theorem isBusy_iff (inTime : outlasts requestSecs (.reply visit.reply) = false)
    (operation : Operation) : visit.isBusy client requestSecs operation = true ↔
      ∃ error, visit.error? client = some error ∧
        error.status?.any Status.isOverloaded = true ∧
        Operation.ofPath? visit.request.target.path = some operation := by
  rw [isBusy, Bool.and_eq_true, beq_iff_eq]
  constructor
  · rintro ⟨failed, same⟩
    -- a notice is told from the other answers by its status
    have ok : visit.status client requestSecs = 200 := congrArg Response.status same
    cases found : visit.error? client with
    | none =>
      rcases (answer_of_no_error found inTime).2 with ⟨missing, -⟩ | ⟨-, success⟩
      · rw [missing] at ok
        exact absurd ok (by decide)
      · rw [failed] at success
        cases success
    | some error =>
      have response := (answer_of_error found inTime).1
      rw [status, response, refusal_response] at ok
      rw [response, refusal_response] at same
      refine ⟨error, rfl, ?_⟩
      cases overloaded : error.status?.any Status.isOverloaded with
      | false =>
        rw [overloaded] at ok
        have ok : 502 = 200 := ok
        exact absurd ok (by decide)
      | true =>
        rw [overloaded] at ok same
        cases path : Operation.ofPath? visit.request.target.path with
        | none =>
          rw [path] at ok
          have ok : 503 = 200 := ok
          exact absurd ok (by decide)
        | some named =>
          rw [path] at same
          have same : visit.notice named = visit.notice operation := same
          exact ⟨rfl, congrArg some (notice_injective same)⟩
  · rintro ⟨error, found, overloaded, path⟩
    have response := (answer_of_error found inTime).1
    constructor
    · cases failed : visit.reply.isFailure with
      | true => rfl
      | false =>
        rw [error?_eq_none_iff.mpr (.inr failed)] at found
        cases found
    · rw [response, refusal_response, if_pos overloaded, path]
      rfl

/-- **What one request adds**: the error of its call, if it failed, and the notice if that was
an overload of a Git operation. -/
theorem answer_counters (inTime : outlasts requestSecs (.reply visit.reply) = false) :
    (visit.answer client requestSecs).counters = match visit.error? client with
      | none => []
      | some error => .backendError (errorLabel error) ::
        if error.status?.any Status.isOverloaded then
          (Operation.ofPath? visit.request.target.path).toList.map Counter.busyNotice
        else [] := by
  cases found : visit.error? client with
  | none => exact (answer_of_no_error found inTime).1
  | some error => rw [(answer_of_error found inTime).2, refusal_counters]

/-- One more busy notice is counted where one is sent. -/
theorem count_busyNotice (inTime : outlasts requestSecs (.reply visit.reply) = false)
    (operation : Operation) :
    (visit.answer client requestSecs).counters.count (.busyNotice operation) =
      if visit.isBusy client requestSecs operation then 1 else 0 := by
  simp only [isBusy_iff inTime, answer_counters inTime]
  cases visit.error? client with
  | none => simp
  | some error =>
    cases overloaded : error.status?.any Status.isOverloaded with
    | false => simp [overloaded]
    | true =>
      cases Operation.ofPath? visit.request.target.path with
      | none => simp [overloaded]
      | some named => by_cases same : named = operation <;> simp [overloaded, same]

/-- Of the errors exactly that of the call is counted, if it failed. -/
theorem countP_backendError (inTime : outlasts requestSecs (.reply visit.reply) = false)
    {p : Counter → Bool} (notices : ∀ operation, p (.busyNotice operation) = false) :
    (visit.answer client requestSecs).counters.countP p =
      if (visit.error? client).any fun error => p (.backendError (errorLabel error)) then 1
      else 0 := by
  rw [answer_counters inTime]
  cases visit.error? client with
  | none => rfl
  | some error =>
    have others : ∀ operations : List Operation,
        (operations.map Counter.busyNotice).countP p = 0 := by
      intro operations
      rw [List.countP_eq_zero]
      intro counter mem
      obtain ⟨operation, -, rfl⟩ := List.mem_map.mp mem
      rw [notices operation]
      exact Bool.false_ne_true
    have notice : (if error.status?.any Status.isOverloaded then
        (Operation.ofPath? visit.request.target.path).toList.map Counter.busyNotice
        else []).countP p = 0 := by
      split
      · exact others _
      · rfl
    simp [List.countP_cons, notice]

/-- The status of the answer to a failed call. -/
theorem status_of_error {error : Backend.Error} (failed : visit.error? client = some error)
    (inTime : outlasts requestSecs (.reply visit.reply) = false) :
    visit.status client requestSecs = if error.status?.any Status.isOverloaded then
      if (Operation.ofPath? visit.request.target.path).isSome then 200 else 503
      else 502 := by
  rw [status, (answer_of_error failed inTime).1, refusal_response]
  split
  · cases Operation.ofPath? visit.request.target.path <;> rfl
  · rfl

/-- **A failed call is answered** by 502, by 503 or by a busy notice about one of the
operations, and no other request is. -/
theorem isSome_error?_count (client : Client)
    (inTime : outlasts requestSecs (.reply visit.reply) = false) :
    (if (visit.error? client).isSome then 1 else 0) =
      (if visit.status client requestSecs == 502 then 1 else 0) +
      (if visit.status client requestSecs == 503 then 1 else 0) +
      (if visit.isBusy client requestSecs .receivePack then 1 else 0) +
      (if visit.isBusy client requestSecs .uploadPack then 1 else 0) := by
  simp only [isBusy_iff inTime]
  cases found : visit.error? client with
  | none =>
    have other : ∀ status, Http.isSuccess status = false → status ≠ 404 →
        (visit.status client requestSecs == status) = false := by
      intro status failure ne
      rw [beq_eq_false_iff_ne]
      rintro rfl
      rcases (answer_of_no_error found inTime).2 with ⟨missing, -⟩ | ⟨success, -⟩
      · exact ne missing
      · rw [failure] at success
        cases success
    rw [other 502 (by decide) (by decide), other 503 (by decide) (by decide)]
    simp
  | some error =>
    rw [status_of_error found inTime]
    cases overloaded : error.status?.any Status.isOverloaded with
    | false => simp [overloaded]
    | true =>
      cases Operation.ofPath? visit.request.target.path with
      | none => simp
      | some operation => cases operation <;> simp [overloaded]

end Visit

/-! ## The accounts of a run -/

/-- The table of totals after a run of requests, one after the other. -/
def totalsAfter (client : Client) (requestSecs : Nat) (visits : List Visit) :
    List (Counter × Nat) :=
  visits.foldl (Visit.record client requestSecs) []

/-- All increments of a run, in order. -/
def increments (client : Client) (requestSecs : Nat) (visits : List Visit) : List Counter :=
  visits.flatMap fun visit => (visit.answer client requestSecs).counters

/-- **The table after a run** is the tally of its increments. By induction on the run: one more
request adds its increments to the tally of those before. -/
theorem totalsAfter_eq_tally (client : Client) (requestSecs : Nat) (visits : List Visit) :
    totalsAfter client requestSecs visits =
      Counter.tally (increments client requestSecs visits) := by
  induction visits using List.reverseRecOn with
  | nil => rfl
  | append_singleton earlier visit ih =>
    have step : totalsAfter client requestSecs (earlier ++ [visit]) =
        visit.record client requestSecs (totalsAfter client requestSecs earlier) := by
      rw [totalsAfter, List.foldl_append]
      rfl
    rw [step, ih, Visit.record, Counter.addAll_tally, increments, increments,
      List.flatMap_append, List.flatMap_singleton]

section Run

variable {client : Client} {requestSecs : Nat} {visits : List Visit}

/-- In a run that no request timeout cuts short, the busy notices are counted. -/
theorem count_increments_busyNotice
    (inTime : ∀ visit ∈ visits, outlasts requestSecs (.reply visit.reply) = false)
    (operation : Operation) :
    (increments client requestSecs visits).count (.busyNotice operation) =
      visits.countP fun visit => visit.isBusy client requestSecs operation :=
  countP_flatMap_eq fun visit mem => Visit.count_busyNotice (inTime visit mem) operation

/-- In such a run the errors that a predicate on their labels selects are counted. -/
theorem countP_increments_backendError
    (inTime : ∀ visit ∈ visits, outlasts requestSecs (.reply visit.reply) = false)
    {p : Counter → Bool} (notices : ∀ operation, p (.busyNotice operation) = false) :
    (increments client requestSecs visits).countP p = visits.countP fun visit =>
      (visit.error? client).any fun error => p (.backendError (errorLabel error)) :=
  countP_flatMap_eq fun visit mem => Visit.countP_backendError (inTime visit mem) notices

/-- The total of one label of the errors. -/
theorem total_backendError
    (inTime : ∀ visit ∈ visits, outlasts requestSecs (.reply visit.reply) = false)
    (label : String) :
    Counter.total (totalsAfter client requestSecs visits) "git_backend_errors_total"
        ("code", label) =
      visits.countP fun visit => (visit.error? client).any fun error =>
        errorLabel error == label := by
  have series : Counter.total (totalsAfter client requestSecs visits)
      "git_backend_errors_total" ("code", label) =
      (increments client requestSecs visits).count (.backendError label) := by
    rw [totalsAfter_eq_tally]
    exact Counter.total_tally _ (.backendError label)
  have same : ∀ error : Backend.Error,
      (Counter.backendError (errorLabel error) == .backendError label) =
        (errorLabel error == label) := by
    intro error
    rw [Bool.eq_iff_iff, beq_iff_eq, beq_iff_eq, Counter.backendError.injEq]
  rw [series, List.count, countP_increments_backendError inTime fun operation => rfl]
  simp only [same]

/-- All errors together are the failed calls. -/
theorem family_backendErrors
    (inTime : ∀ visit ∈ visits, outlasts requestSecs (.reply visit.reply) = false) :
    Counter.family (totalsAfter client requestSecs visits) "git_backend_errors_total" =
      visits.countP fun visit => (visit.error? client).isSome := by
  rw [Counter.family, totalsAfter_eq_tally, Counter.sumOf_tally,
    countP_increments_backendError inTime fun operation => rfl]
  simp only [Counter.name, beq_self_eq_true, Option.any_true]

/-- The failed calls of a run are its answers of 502, of 503 and of busy notices. By induction
on the run, from the same of one request. -/
theorem countP_failed
    (inTime : ∀ visit ∈ visits, outlasts requestSecs (.reply visit.reply) = false) :
    (visits.countP fun visit => (visit.error? client).isSome) =
      (visits.countP fun visit => visit.status client requestSecs == 502) +
      (visits.countP fun visit => visit.status client requestSecs == 503) +
      (visits.countP fun visit => visit.isBusy client requestSecs .receivePack) +
      (visits.countP fun visit => visit.isBusy client requestSecs .uploadPack) := by
  induction visits with
  | nil => rfl
  | cons visit visits ih =>
    obtain ⟨here, later⟩ := List.forall_mem_cons.mp inTime
    have step := Visit.isSome_error?_count client here
    have rest := ih later
    simp only [List.countP_cons]
    omega

/-- A request that is answered by 404, or by a success, leaves the table as it is. -/
theorem record_of_unfailed {visit : Visit}
    (inTime : outlasts requestSecs (.reply visit.reply) = false)
    (passed : visit.status client requestSecs = 404 ∨ visit.reply.isFailure = false)
    (before : List (Counter × Nat)) : visit.record client requestSecs before = before := by
  have unfailed : visit.error? client = none := by
    rcases passed with missing | success
    · cases found : visit.error? client with
      | none => rfl
      | some error =>
        rw [Visit.status_of_error found inTime] at missing
        split at missing
        · split at missing <;> exact absurd missing (by decide)
        · exact absurd missing (by decide)
    · exact Visit.error?_eq_none_iff.mpr (.inr success)
  rw [Visit.record, (Visit.answer_of_no_error unfailed inTime).1]
  rfl

/-- A run in another order comes to the same totals. -/
theorem totalsAfter_perm {reordered : List Visit} (h : reordered.Perm visits) :
    (totalsAfter client requestSecs reordered).Perm (totalsAfter client requestSecs visits) := by
  rw [totalsAfter_eq_tally, totalsAfter_eq_tally]
  exact Counter.tally_perm (h.flatMap_right _)

end Run

/-- **The accounts of a run** in which no request timeout fires.

- The notices that are counted for an operation are the requests that were answered by one;
- the errors that are counted under a code are the calls that failed with a status of that
  code, and those under the last label are the calls that failed without one;
- all errors together are the answers of 502, of 503 and of busy notices;
- a request that is answered by 404, or by a success of the backend, changes nothing;
- in another order the same requests come to the same totals. -/
theorem totals_account {client : Client} {requestSecs : Nat} {visits : List Visit}
    (inTime : ∀ visit ∈ visits, outlasts requestSecs (.reply visit.reply) = false) :
    let totals := totalsAfter client requestSecs visits
    let answered (status : Nat) :=
      visits.countP fun visit => visit.status client requestSecs == status
    let busy (operation : Operation) :=
      visits.countP fun visit => visit.isBusy client requestSecs operation
    (∀ operation : Operation,
      Counter.total totals "git_overload_responses_total" ("operation", operation.service) =
        busy operation) ∧
    (∀ code : Code, Counter.total totals "git_backend_errors_total" ("code", code.name) =
      visits.countP fun visit => visit.failedWith client code) ∧
    Counter.total totals "git_backend_errors_total" ("code", "TRANSPORT") =
      visits.countP (fun visit => visit.failedWithout client) ∧
    Counter.family totals "git_backend_errors_total" =
      answered 502 + answered 503 + busy .receivePack + busy .uploadPack ∧
    (∀ visit ∈ visits,
      visit.status client requestSecs = 404 ∨ visit.reply.isFailure = false →
      ∀ before, visit.record client requestSecs before = before) ∧
    (∀ reordered : List Visit, reordered.Perm visits →
      (totalsAfter client requestSecs reordered).Perm totals) := by
  intro totals answered busy
  refine ⟨?notices, ?coded, ?uncoded, ?together, ?passed, ?reordered⟩
  case notices =>
    intro operation
    have series : Counter.total totals "git_overload_responses_total"
        ("operation", operation.service) =
        (increments client requestSecs visits).count (.busyNotice operation) := by
      rw [← Counter.total_tally, ← totalsAfter_eq_tally]
      rfl
    rw [series, count_increments_busyNotice inTime]
  case coded =>
    intro code
    rw [total_backendError inTime]
    simp only [errorLabel_beq_name]
    rfl
  case uncoded =>
    rw [total_backendError inTime]
    simp only [errorLabel_beq_transport]
    rfl
  case together => rw [family_backendErrors inTime, countP_failed inTime]
  case passed =>
    intro visit mem passed before
    exact record_of_unfailed (inTime visit mem) passed before
  case reordered =>
    intro reordered perm
    exact totalsAfter_perm perm

/-- A fetch that meets an overload, a push that meets no backend, one that the backend serves
and one for which there is no route: two failures, one of them with a notice. -/
theorem four_visits_account :
    let client : Client := ⟨"backend:80"⟩
    let fetch : Request := ⟨"POST", ⟨none, none, some "/a.git/git-upload-pack"⟩, [], []⟩
    let push : Request := ⟨"POST", ⟨none, none, some "/a.git/git-receive-pack"⟩, [], []⟩
    let options : Request := ⟨"OPTIONS", ⟨none, none, some "*"⟩, [], []⟩
    let array := Utf8.encode
      "[\"ABORTED\", \"\", [\x7b\"@type\": \"type.googleapis.com/gitaly.LimitError\"\x7d]]"
    let visits : List Visit := [⟨fetch, [0x61], .response ⟨503, [], { octets := array }⟩⟩,
      ⟨push, [0x62], .refused⟩, ⟨push, [0x63], .response ⟨200, [], { octets := [] }⟩⟩,
      ⟨options, [0x64], .unreadable⟩]
    let table := [(Counter.backendError "ABORTED", 1), (.busyNotice .uploadPack, 1),
      (.backendError "TRANSPORT", 1)]
    (∀ visit ∈ visits, outlasts 600 (.reply visit.reply) = false) ∧
      totalsAfter client 600 visits = table ∧
      (visits.countP fun visit => visit.isBusy client 600 .uploadPack) = 1 ∧
      (visits.countP fun visit => visit.failedWith client .aborted) = 1 ∧
      (visits.countP fun visit => visit.failedWithout client) = 1 ∧
      ∀ reordered : List Visit, reordered.Perm visits →
        (totalsAfter client 600 reordered).Perm table := by
  intro client fetch push options array visits table
  have inTime : ∀ visit ∈ visits, outlasts 600 (.reply visit.reply) = false := by
    decide
  have added : visits.map (fun visit => (visit.answer client 600).counters) =
      [[.backendError "ABORTED", .busyNotice .uploadPack], [.backendError "TRANSPORT"],
        [], []] := by
    rw [List.map_congr_left fun visit mem => Visit.answer_counters (inTime visit mem)]
    decide +kernel
  have totals : totalsAfter client 600 visits = table := by
    rw [totalsAfter_eq_tally, increments, List.flatMap_def, added]
    decide
  obtain ⟨notices, coded, uncoded, -, -, reordered⟩ := @totals_account client 600 visits inTime
  rw [totals] at notices coded uncoded reordered
  exact ⟨inTime, totals, (notices .uploadPack).symm, (coded .aborted).symm, uncoded.symm,
    reordered⟩

end Proxy

end GitGateway
