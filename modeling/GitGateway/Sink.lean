import GitGateway.Fault
import GitGateway.Text.Utf8

/-!
# Sinks

A sink is the far end of an outgoing connection, seen as a state machine: each
write call offers it some octets, and it takes a few of them, is interrupted, or
fails. Nothing else is known of it, except that it does not answer "interrupted"
for ever when it is offered the same octets again and again.

- `Sink` — the state machine, with the measure that bounds a run of interruptions;
- `Session` — the state of a sink together with every call made on it so far;
- `Sink.send` — offers a run of octets again and again until all of it is taken;
- `Sink.sendAll` — sends several runs, and stops at the first failure;
- `Sink.memory` — the sink that takes everything.

A session keeps its calls, so what a sink was offered, what it took and where it
stopped can all be read off it.
-/

namespace GitGateway

/-! ## Failures -/

/-- Why something was not written to the end. -/
inductive WriteError where
  /-- The payload of a frame, `length` octets, is longer than a frame can hold. -/
  | oversized (length : Nat)
  /-- The sink took nothing of what it was offered. -/
  | stalled
  /-- The sink failed. -/
  | fault (cause : Fault)
  deriving DecidableEq, Repr

/-! ## The state machine -/

/-- A sink's answer to one write call. -/
inductive SinkReply where
  /-- It took the first `count` octets (all of them, if there are fewer). -/
  | accepted (count : Nat)
  /-- Nothing happened; the same call may be made again. -/
  | interrupted
  /-- It failed, and not by an interruption. -/
  | failed (cause : Fault)
  deriving DecidableEq, Repr

/-- A state machine that takes octets. `patience` bounds how often in a row a state
interrupts the same offer; it may be another number for every offer. -/
structure Sink (σ : Type) where
  write : σ → Bytes → SinkReply × σ
  patience : σ → Bytes → Nat
  patience_lt : ∀ s offer s', write s offer = (.interrupted, s') →
    patience s' offer < patience s offer

/-- One write call: what was offered and what came back. -/
structure Call where
  offer : Bytes
  reply : SinkReply
  deriving DecidableEq, Repr

/-- The octets that a call delivered. -/
def Call.taken (call : Call) : Bytes :=
  match call.reply with
  | .accepted count => call.offer.take count
  | .interrupted | .failed _ => []

/-- A sink in use: its state, and the calls made on it, latest first. -/
structure Session (σ : Type) where
  state : σ
  calls : List Call

namespace Session

variable {σ : Type}

/-- A session in which no call was made yet. -/
def start (state : σ) : Session σ :=
  ⟨state, []⟩

/-- The session after one more call. -/
def record (session : Session σ) (call : Call) (state : σ) : Session σ :=
  ⟨state, call :: session.calls⟩

/-- Everything that the sink has taken, in order. -/
def written (session : Session σ) : Bytes :=
  session.calls.reverse.flatMap Call.taken

@[simp] theorem written_start (state : σ) : (start state).written = [] := rfl

@[simp] theorem written_record (session : Session σ) (call : Call) (state : σ) :
    (session.record call state).written = session.written ++ call.taken := by
  simp [record, written]

end Session

namespace Sink

variable {σ : Type}

/-- Offers `data` until the sink has taken all of it. An interrupted call is made
again, a short one is followed by a call with what is left, and a failure, or a
call that takes nothing, ends the attempt. No call is made for empty data. -/
def send (sink : Sink σ) (session : Session σ) : Bytes → Except WriteError Unit × Session σ
  | [] => (.ok (), session)
  | b :: rest =>
    match hw : sink.write session.state (b :: rest) with
    | (.interrupted, state) =>
      send sink (session.record ⟨b :: rest, .interrupted⟩ state) (b :: rest)
    | (.failed cause, state) =>
      (.error (.fault cause), session.record ⟨b :: rest, .failed cause⟩ state)
    | (.accepted 0, state) =>
      (.error .stalled, session.record ⟨b :: rest, .accepted 0⟩ state)
    | (.accepted (count + 1), state) =>
      send sink (session.record ⟨b :: rest, .accepted (count + 1)⟩ state) (rest.drop count)
termination_by data => (data.length, sink.patience session.state data)
decreasing_by
  · exact Prod.Lex.right _ (sink.patience_lt _ _ _ hw)
  · refine Prod.Lex.left _ _ ?_
    rw [List.length_drop, List.length_cons]
    omega

/-- Sends the runs one after the other, up to the first failure. -/
def sendAll (sink : Sink σ) (session : Session σ) : List Bytes → Except WriteError Unit × Session σ
  | [] => (.ok (), session)
  | data :: rest =>
    match sink.send session data with
    | (.ok (), session) => sink.sendAll session rest
    | failure => failure

/-! ## Two sinks -/

/-- The sink that takes all it is offered. -/
def memory : Sink Unit where
  write _ offer := (.accepted offer.length, ())
  patience _ _ := 0
  patience_lt := by simp

/-- How a troubled connection behaves. Every bound is optional. -/
structure Trouble where
  /-- The write calls that may succeed; each later one fails. -/
  budget : Option Nat := none
  /-- The most that one call takes. -/
  chunk : Option Nat := none
  /-- The most that all calls together take. -/
  capacity : Option Nat := none
  /-- The calls that pass between two interruptions, less one. -/
  interruptGap : Option Nat := none
  /-- The kind of failure once the budget is spent. -/
  kind : FaultKind := .brokenPipe
  deriving Repr

/-- The calls that a troubled connection has seen, the successes it has left, and
the octets it has taken. -/
structure Wear where
  calls : Nat := 0
  budget : Option Nat
  taken : Nat := 0
  deriving Repr

/-- Whether the call after `calls` calls is interrupted: each one whose number is
a multiple of the gap plus two. -/
def Trouble.interrupts (trouble : Trouble) (calls : Nat) : Bool :=
  match trouble.interruptGap with
  | none => false
  | some gap => (calls + 1) % (gap + 2) == 0

theorem Trouble.interrupts_succ {trouble : Trouble} {calls : Nat}
    (h : trouble.interrupts calls = true) : trouble.interrupts (calls + 1) = false := by
  unfold interrupts at *
  cases hgap : trouble.interruptGap with
  | none => rfl
  | some gap =>
    simp only [hgap, beq_iff_eq, beq_eq_false_iff_ne] at *
    have hone : 1 % (gap + 2) = 1 := Nat.mod_eq_of_lt (by omega)
    rw [Nat.add_mod, h, hone, Nat.zero_add, hone]
    exact Nat.one_ne_zero

/-- A connection with trouble: interruptions come first, then the budget, and a
call that gets past both takes what the bounds leave room for. -/
def troubled (trouble : Trouble) : Sink Wear where
  write wear offer :=
    let next := { wear with calls := wear.calls + 1 }
    if trouble.interrupts wear.calls then
      (.interrupted, next)
    else if wear.budget = some 0 then
      (.failed ⟨trouble.kind, "client went away"⟩, next)
    else
      let room := match trouble.capacity with
        | none => trouble.chunk
        | some capacity => some (min (capacity - wear.taken) (trouble.chunk.getD capacity))
      let count := match room with
        | none => offer.length
        | some room => (offer.take room).length
      (.accepted count,
        { next with budget := wear.budget.map (· - 1), taken := wear.taken + count })
  patience wear _ := if trouble.interrupts wear.calls then 1 else 0
  patience_lt := by
    intro wear offer wear' h
    simp only at h
    split at h
    · rename_i hcalls
      obtain ⟨-, rfl⟩ := Prod.mk.inj h
      simp [hcalls, Trouble.interrupts_succ hcalls]
    · split at h <;> simp at h

/-- A troubled connection before its first call. -/
def Trouble.session (trouble : Trouble) : Session Wear :=
  Session.start { budget := trouble.budget }

end Sink

end GitGateway
