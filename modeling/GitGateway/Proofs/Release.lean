import GitGateway.Shutdown
import Mathlib.Data.List.Induction

/-!
# When waiters are released

A waiter is released by what happens after it came, and by nothing else: by an announcement
on its channel, or by the last coordinator of the channel going away.

- `Hub.Move`: one action, one rule for each thing that can come of it. `Hub.move` says that
  every step follows a rule, and what a step does to the channels, the coordinators and the
  waiters is read off the rules, one lemma for each;
- `Waits`: what is known of a waiter in the middle of a run. A channel counts the
  announcements that it stores, so a waiter that was not released yet has heard one exactly
  when the count went up since it came: as long as the waiter is there, none is dropped;
- `Waits.step`, `Waits.run`: one action keeps it, hence a run keeps it;
- `Hub.release_is_exact`: a poll releases the waiter exactly when it is due, once, and what
  was due once stays due.

A channel holds one announcement only. A waiter that is polled after the second one does not
come upon the first any more, but upon the fact that it missed it, and is released all the
same: `Hub.receive?_eq_none_iff` is where the two are one.
-/

namespace GitGateway.Shutdown

/-! ## Names and their values -/

section Entries

variable {α : Type} {entries : List (String × α)} {name other : String} {value : α}

theorem lookup?_set_self : lookup? (set entries name value) name = some value := by
  simp [lookup?, set]

theorem lookup?_without_of_ne (h : other ≠ name) :
    lookup? (without entries name) other = lookup? entries other := by
  have same : (fun entry : String × α =>
      decide ((entry.1 != name) = true ∧ (entry.1 == other) = true)) =
      fun entry => entry.1 == other := by
    funext entry
    by_cases at_other : entry.1 = other
    · simp [at_other, h]
    · simp [at_other]
  rw [lookup?, without, List.find?_filter, same, lookup?]

theorem lookup?_set_of_ne (h : other ≠ name) :
    lookup? (set entries name value) other = lookup? entries other := by
  rw [lookup?, set, List.find?_cons_of_neg (by simpa using h.symm)]
  exact lookup?_without_of_ne h

theorem mem_of_lookup? (h : lookup? entries name = some value) : (name, value) ∈ entries := by
  obtain ⟨entry, found, rfl⟩ := Option.map_eq_some_iff.mp h
  have named : entry.1 = name := by simpa using List.find?_some found
  rw [← named]
  exact List.mem_of_find?_eq_some found

theorem mem_of_mem_without {entry : String × α} (h : entry ∈ without entries name) :
    entry ∈ entries :=
  (List.mem_filter.mp h).1

theorem eq_or_mem_of_mem_set {entry : String × α} (h : entry ∈ set entries name value) :
    entry = (name, value) ∨ entry ∈ entries :=
  (List.mem_cons.mp h).imp_right mem_of_mem_without

end Entries

/-- An action neither drops a waiter nor puts another in its place. -/
def Action.Spares (name : String) : Action → Prop
  | .subscribe other _ | .unsubscribe other => other ≠ name
  | _ => True

namespace Hub

/-! ## Channels -/

/-- A channel is closed when none of the coordinators is on it. -/
theorem isOpen_eq_false_iff {hub : Hub} {channel : Nat} :
    hub.isOpen channel = false ↔ ∀ handle ∈ hub.coordinators, handle.2 ≠ channel := by
  simp [isOpen]

/-- A waiter that was not released is someone who waits on its channel. -/
theorem isAwaited_of_lookup? {hub : Hub} {name : String} {waiter : Waiter}
    (h : lookup? hub.waiters name = some waiter) (waits : waiter.released = false) :
    hub.isAwaited waiter.channel = true :=
  List.any_eq_true.mpr ⟨_, mem_of_lookup? h, by simp [waits]⟩

/-- **A waiter goes on waiting** exactly when nothing was stored since it came and the
channel is open. Whether what was stored is still there makes no difference. -/
theorem receive?_eq_none_iff {hub : Hub} {waiter : Waiter} :
    hub.receive? waiter = none ↔
      hub.storedIn waiter.channel ≤ waiter.seen ∧ hub.isOpen waiter.channel = true := by
  unfold receive?
  dsimp only
  split
  · rename_i later
    simp only [reduceCtorEq, false_iff, not_and]
    omega
  · split
    · rename_i stored
      simp only [reduceCtorEq, false_iff, not_and]
      omega
    · rename_i nothing
      have nothing := Nat.le_of_not_lt nothing
      cases hub.isOpen waiter.channel <;> simp [nothing]

/-! ## One action -/

/-- What can come of an action. -/
inductive Move (hub : Hub) : Action → Answer → Hub → Prop where
  /-- A name that stands for nothing: nothing is done. -/
  | unknown {action : Action}
      (untold : ∀ name, action = .trigger name → lookup? hub.coordinators name = none)
      (unasked : ∀ name, action = .poll name → lookup? hub.waiters name = none) :
      Move hub action .unknown hub
  | created (name : String) :
      Move hub (.create name) .done
        { hub with
          stored := hub.stored ++ [0]
          coordinators := set hub.coordinators name hub.stored.length }
  | cloned (name : String) {source : String} {channel : Nat}
      (h : lookup? hub.coordinators source = some channel) :
      Move hub (.clone name source) .done
        { hub with coordinators := set hub.coordinators name channel }
  | dropped (name : String) :
      Move hub (.drop name) .done { hub with coordinators := without hub.coordinators name }
  | announced {name : String} {channel : Nat} (h : lookup? hub.coordinators name = some channel)
      (heard : hub.isAwaited channel = true) :
      Move hub (.trigger name) .done
        { hub with stored := hub.stored.set channel (hub.storedIn channel + 1) }
  | unheard {name : String} {channel : Nat} (h : lookup? hub.coordinators name = some channel)
      (unheard : hub.isAwaited channel = false) : Move hub (.trigger name) .done hub
  | subscribed (name : String) {source : String} {channel : Nat}
      (h : lookup? hub.coordinators source = some channel) :
      Move hub (.subscribe name source) .done
        { hub with waiters := set hub.waiters name ⟨channel, hub.storedIn channel, false⟩ }
  | unsubscribed (name : String) :
      Move hub (.unsubscribe name) .done { hub with waiters := without hub.waiters name }
  | waiting {name : String} {waiter : Waiter} (h : lookup? hub.waiters name = some waiter)
      (unreleased : waiter.released = false) (nothing : hub.receive? waiter = none) :
      Move hub (.poll name) .pending hub
  | released {name : String} {waiter : Waiter} (h : lookup? hub.waiters name = some waiter)
      (unreleased : waiter.released = false) (something : hub.receive? waiter ≠ none) :
      Move hub (.poll name) .ready
        { hub with waiters := set hub.waiters name { waiter with released := true } }
  | finished {name : String} {waiter : Waiter} (h : lookup? hub.waiters name = some waiter)
      (released : waiter.released = true) : Move hub (.poll name) .finished hub

/-- A trigger by a coordinator that is there. -/
theorem move_trigger {hub : Hub} {name : String} {channel : Nat}
    (h : lookup? hub.coordinators name = some channel) :
    (hub.step (.trigger name)).1 = .done ∧
      Move hub (.trigger name) .done (hub.step (.trigger name)).2 := by
  simp only [step, h, announce, send?, true_and]
  cases heard : hub.isAwaited channel with
  | true => exact .announced h heard
  | false => exact .unheard h heard

/-- A poll of a waiter that is there. -/
theorem move_poll {hub : Hub} {name : String} {waiter : Waiter}
    (h : lookup? hub.waiters name = some waiter) :
    Move hub (.poll name) (hub.step (.poll name)).1 (hub.step (.poll name)).2 := by
  simp only [step, h]
  cases released : waiter.released with
  | true => exact .finished h released
  | false =>
    cases found : hub.receive? waiter with
    | none => exact .waiting h released found
    | some notice => exact .released h released (found ▸ Option.some_ne_none notice)

/-- **Every step follows a rule.** -/
theorem move (hub : Hub) (action : Action) :
    Move hub action (hub.step action).1 (hub.step action).2 := by
  cases action with
  | create name => exact .created name
  | clone name source =>
    simp only [step]
    split
    · exact .unknown nofun nofun
    · rename_i h
      exact .cloned name h
  | drop name =>
    simp only [step]
    split
    · exact .unknown nofun nofun
    · exact .dropped name
  | trigger name =>
    cases h : lookup? hub.coordinators name with
    | none =>
      simp only [step, h]
      exact .unknown (fun _ same => Action.trigger.inj same ▸ h) nofun
    | some channel =>
      obtain ⟨done, moved⟩ := move_trigger h
      rwa [done]
  | subscribe name source =>
    simp only [step]
    split
    · exact .unknown nofun nofun
    · rename_i h
      exact .subscribed name h
  | unsubscribe name =>
    simp only [step]
    split
    · exact .unknown nofun nofun
    · exact .unsubscribed name
  | poll name =>
    cases h : lookup? hub.waiters name with
    | none =>
      simp only [step, h]
      exact .unknown nofun (fun _ same => Action.poll.inj same ▸ h)
    | some waiter => exact move_poll h

/-! ## What an action does to channels, coordinators and waiters -/

/-- Every coordinator is on a channel that there is. -/
def Sound (hub : Hub) : Prop :=
  ∀ handle ∈ hub.coordinators, handle.2 < hub.stored.length

/-- An action announces something on a channel. -/
def Announces (channel : Nat) (hub : Hub) (action : Action) : Prop :=
  ∃ clone, action = .trigger clone ∧ lookup? hub.coordinators clone = some channel

/-- An action is a poll that releases a waiter. -/
def Releases (name : String) (hub : Hub) (action : Action) : Prop :=
  action = .poll name ∧ (hub.step action).1 = .ready

section Step

variable {hub after : Hub} {action : Action} {answer : Answer}

/-- Channels do not go away. -/
theorem Move.length_stored_le (h : Move hub action answer after) :
    hub.stored.length ≤ after.stored.length := by
  cases h <;> simp

/-- A coordinator is on a channel that another was on before, or on a new one. -/
theorem Move.channel_of_mem (h : Move hub action answer after) {handle : String × Nat}
    (there : handle ∈ after.coordinators) :
    (∃ before ∈ hub.coordinators, before.2 = handle.2) ∨
      handle.2 = hub.stored.length ∧ hub.stored.length < after.stored.length := by
  cases h with
  | created name =>
    rcases eq_or_mem_of_mem_set there with rfl | old
    · exact .inr ⟨rfl, by simp⟩
    · exact .inl ⟨handle, old, rfl⟩
  | cloned name h =>
    rcases eq_or_mem_of_mem_set there with rfl | old
    · exact .inl ⟨_, mem_of_lookup? h, rfl⟩
    · exact .inl ⟨handle, old, rfl⟩
  | dropped name => exact .inl ⟨handle, mem_of_mem_without there, rfl⟩
  | unknown | announced | unheard | subscribed | unsubscribed | waiting | released | finished =>
    exact .inl ⟨handle, there, rfl⟩

theorem Move.sound (h : Move hub action answer after) (sound : hub.Sound) : after.Sound := by
  intro handle there
  rcases h.channel_of_mem there with ⟨before, old, same⟩ | ⟨new, grown⟩
  · exact same ▸ Nat.lt_of_lt_of_le (sound before old) h.length_stored_le
  · exact new ▸ grown

/-- A closed channel stays closed, since a coordinator that is no clone is on a new channel. -/
theorem Move.closed (h : Move hub action answer after) {channel : Nat}
    (known : channel < hub.stored.length) (closed : hub.isOpen channel = false) :
    after.isOpen channel = false := by
  rw [isOpen_eq_false_iff] at closed ⊢
  intro handle there
  rcases h.channel_of_mem there with ⟨before, old, same⟩ | ⟨new, -⟩
  · exact same ▸ closed before old
  · exact new ▸ Nat.ne_of_gt known

/-- An announcement that someone waits for is stored. -/
theorem Move.storedIn_of_announces (h : Move hub action answer after) {channel : Nat}
    (known : channel < hub.stored.length) (announces : Announces channel hub action)
    (awaited : hub.isAwaited channel = true) :
    after.storedIn channel = hub.storedIn channel + 1 := by
  obtain ⟨clone, rfl, on⟩ := announces
  cases h with
  | unknown untold =>
    rw [untold clone rfl] at on
    cases on
  | announced h =>
    obtain rfl := Option.some.inj (h.symm.trans on)
    simp [storedIn, known]
  | unheard h unheard =>
    obtain rfl := Option.some.inj (h.symm.trans on)
    rw [awaited] at unheard
    cases unheard

/-- Nothing else is stored. -/
theorem Move.storedIn_eq (h : Move hub action answer after) {channel : Nat}
    (known : channel < hub.stored.length)
    (quiet : ¬ (Announces channel hub action ∧ hub.isAwaited channel = true)) :
    after.storedIn channel = hub.storedIn channel := by
  cases h with
  | created name => simp [storedIn, List.getElem?_append_left known]
  | announced h heard =>
    rename_i name other
    have elsewhere : other ≠ channel := by
      rintro rfl
      exact quiet ⟨⟨name, rfl, h⟩, heard⟩
    simp [storedIn, List.getElem?_set_ne elsewhere]
  | unknown | cloned | dropped | unheard | subscribed | unsubscribed | waiting | released
  | finished => rfl

/-- What is stored does not become less. -/
theorem Move.storedIn_le (h : Move hub action answer after) {channel : Nat}
    (known : channel < hub.stored.length) : hub.storedIn channel ≤ after.storedIn channel := by
  by_cases heard : Announces channel hub action ∧ hub.isAwaited channel = true
  · exact h.storedIn_of_announces known heard.1 heard.2 ▸ Nat.le_succ _
  · exact Nat.le_of_eq (h.storedIn_eq known heard).symm

/-- A waiter that is released was waiting and came upon something, and is done. -/
theorem Move.waiter_of_release (h : Move hub action answer after) {name : String}
    (polled : action = .poll name) (ready : answer = .ready) :
    ∃ waiter, lookup? hub.waiters name = some waiter ∧ waiter.released = false ∧
      hub.receive? waiter ≠ none ∧
      lookup? after.waiters name = some { waiter with released := true } := by
  cases h with
  | released h unreleased something =>
    obtain rfl := Action.poll.inj polled
    exact ⟨_, h, unreleased, something, lookup?_set_self⟩
  | unknown | created | cloned | dropped | announced | unheard | subscribed | unsubscribed
  | waiting | finished => cases ready

/-- Nothing else changes a waiter that is spared. -/
theorem Move.waiter_eq (h : Move hub action answer after) {name : String}
    (spared : action.Spares name) (unreleased : ¬ (action = .poll name ∧ answer = .ready)) :
    lookup? after.waiters name = lookup? hub.waiters name := by
  cases h with
  | subscribed other h => exact lookup?_set_of_ne (Ne.symm spared)
  | unsubscribed other => exact lookup?_without_of_ne (Ne.symm spared)
  | released h _ something =>
    rename_i other waiter _
    have elsewhere : name ≠ other := by
      rintro rfl
      exact unreleased ⟨rfl, rfl⟩
    exact lookup?_set_of_ne elsewhere
  | unknown | created | cloned | dropped | announced | unheard | waiting | finished => rfl

end Step

/-! ## A waiter in a run -/

/-- What is known of a waiter that came when its channel had stored `seen` announcements:
whether something was announced since then, and whether it was released. -/
structure Waits (name : String) (channel seen : Nat) (announced released : Prop) (hub : Hub) :
    Prop where
  sound : hub.Sound
  known : channel < hub.stored.length
  least : seen ≤ hub.storedIn channel
  waiter : ∃ done, lookup? hub.waiters name = some ⟨channel, seen, done⟩ ∧ (done = true ↔ released)
  /-- While it waits, its channel has stored all that was announced. -/
  heard : ¬ released → (seen < hub.storedIn channel ↔ announced)
  due : released → announced ∨ hub.isOpen channel = false

section Waits

variable {hub : Hub} {name : String} {channel seen : Nat} {announced released : Prop}

/-- While it waits, there is something for it to come upon exactly when it is due. -/
theorem Waits.receive?_eq_none_iff (h : Waits name channel seen announced released hub)
    (waiting : ¬ released) (done : Bool) :
    hub.receive? ⟨channel, seen, done⟩ = none ↔ ¬ (announced ∨ hub.isOpen channel = false) := by
  rw [Hub.receive?_eq_none_iff, ← h.heard waiting, not_or, Nat.not_lt, Bool.not_eq_false]

/-- Who comes upon something while it waits is due. -/
theorem Waits.due_of_receive (h : Waits name channel seen announced released hub)
    (waiting : ¬ released) {done : Bool} (something : hub.receive? ⟨channel, seen, done⟩ ≠ none) :
    announced ∨ hub.isOpen channel = false := by
  by_contra undue
  exact something ((h.receive?_eq_none_iff waiting done).mpr undue)

/-- **What a poll answers**: the waiter goes on waiting unless it is due, and is released
once. -/
theorem Waits.poll (h : Waits name channel seen announced released hub) :
    ((hub.step (.poll name)).1 = .finished ↔ released) ∧
      ((hub.step (.poll name)).1 = .ready ↔
        (announced ∨ hub.isOpen channel = false) ∧ ¬ released) ∧
      ((hub.step (.poll name)).1 = .pending ↔ ¬ (announced ∨ hub.isOpen channel = false)) := by
  obtain ⟨done, there, done_iff⟩ := h.waiter
  have moved := hub.move (.poll name)
  generalize (hub.step (.poll name)).1 = answer at moved ⊢
  generalize (hub.step (.poll name)).2 = after at moved
  -- of the rules for a poll, each speaks of the waiter that is known
  cases moved with
  | unknown _ unasked =>
    rw [unasked name rfl] at there
    cases there
  | waiting there' unreleased nothing =>
    obtain rfl := Option.some.inj (there'.symm.trans there)
    have waiting : ¬ released := (not_congr done_iff).mp (Bool.eq_false_iff.mp unreleased)
    have undue := (h.receive?_eq_none_iff waiting done).mp nothing
    simp [waiting, undue]
  | released there' unreleased something =>
    obtain rfl := Option.some.inj (there'.symm.trans there)
    have waiting : ¬ released := (not_congr done_iff).mp (Bool.eq_false_iff.mp unreleased)
    have due := h.due_of_receive waiting something
    simp [waiting, due]
  | finished there' was =>
    obtain rfl := Option.some.inj (there'.symm.trans there)
    have was : released := done_iff.mp was
    simp [was, h.due was]

/-- **One action** keeps what is known of a waiter. -/
theorem Waits.step (h : Waits name channel seen announced released hub) {action : Action}
    (spared : action.Spares name) :
    Waits name channel seen (announced ∨ Announces channel hub action)
      (released ∨ Releases name hub action) (hub.step action).2 := by
  have moved := hub.move action
  obtain ⟨done, there, done_iff⟩ := h.waiter
  have least : seen ≤ (hub.step action).2.storedIn channel :=
    Nat.le_trans h.least (moved.storedIn_le h.known)
  have still_due : announced ∨ hub.isOpen channel = false →
      (announced ∨ Announces channel hub action) ∨ (hub.step action).2.isOpen channel = false :=
    Or.imp .inl (moved.closed h.known)
  by_cases releases : Releases name hub action
  · -- it comes upon something, so it was due
    obtain ⟨waiter, there', unreleased, something, after⟩ :=
      moved.waiter_of_release releases.1 releases.2
    obtain rfl := Option.some.inj (there'.symm.trans there)
    have waiting : ¬ released := (not_congr done_iff).mp (Bool.eq_false_iff.mp unreleased)
    have due := h.due_of_receive waiting something
    refine ⟨moved.sound h.sound, Nat.lt_of_lt_of_le h.known moved.length_stored_le, least,
      ⟨true, after, iff_of_true rfl (.inr releases)⟩, fun waiting => ?_, fun _ => still_due due⟩
    exact absurd (.inr releases) waiting
  · have same : released ∨ Releases name hub action ↔ released := or_iff_left releases
    refine ⟨moved.sound h.sound, Nat.lt_of_lt_of_le h.known moved.length_stored_le, least,
      ⟨done, (moved.waiter_eq spared releases).trans there, done_iff.trans same.symm⟩,
      fun waiting => ?_, fun was => still_due (h.due (same.mp was))⟩
    rw [same] at waiting
    have unreleased : done = false := Bool.eq_false_iff.mpr ((not_congr done_iff).mpr waiting)
    have awaited : hub.isAwaited channel = true := isAwaited_of_lookup? there unreleased
    by_cases announces : Announces channel hub action
    · -- it still waits, so the announcement was not dropped
      rw [moved.storedIn_of_announces h.known announces awaited]
      exact iff_of_true (Nat.lt_succ_of_le h.least) (.inr announces)
    · rw [moved.storedIn_eq h.known fun heard => announces heard.1, or_iff_left announces]
      exact h.heard waiting

/-! ## Runs -/

/-- A hub after a run of actions. -/
def after (hub : Hub) (actions : List Action) : Hub :=
  (hub.run actions).2

theorem after_append (hub : Hub) (first last : List Action) :
    hub.after (first ++ last) = (hub.after first).after last := by
  induction first generalizing hub with
  | nil => rfl
  | cons action rest ih => exact ih (hub.step action).2

theorem after_concat (hub : Hub) (actions : List Action) (action : Action) :
    hub.after (actions ++ [action]) = ((hub.after actions).step action).2 :=
  after_append hub actions [action]

/-- Some action of a run is of a kind, which may depend on the hub as it was then. -/
def Happens (hub : Hub) (kind : Hub → Action → Prop) (actions : List Action) : Prop :=
  ∃ first action last, actions = first ++ action :: last ∧ kind (hub.after first) action

theorem not_happens_nil (hub : Hub) (kind : Hub → Action → Prop) : ¬ hub.Happens kind [] := by
  rintro ⟨first, action, last, split, -⟩
  simp at split

theorem happens_concat {kind : Hub → Action → Prop} {actions : List Action} {action : Action} :
    hub.Happens kind (actions ++ [action]) ↔
      hub.Happens kind actions ∨ kind (hub.after actions) action := by
  constructor
  · rintro ⟨first, found, last, split, holds⟩
    rcases List.eq_nil_or_concat last with rfl | ⟨others, final, rfl⟩
    · obtain ⟨rfl, same⟩ := List.append_inj' split rfl
      obtain rfl := List.singleton_inj.mp same
      exact .inr holds
    · rw [List.concat_eq_append, ← List.cons_append, ← List.append_assoc] at split
      obtain ⟨rfl, -⟩ := List.append_inj' split rfl
      exact .inl ⟨first, found, others, rfl, holds⟩
  · rintro (⟨first, found, last, rfl, holds⟩ | holds)
    · exact ⟨first, found, last ++ [action], by simp, holds⟩
    · exact ⟨actions, action, [], rfl, holds⟩

/-- **A run** keeps what is known of a waiter. -/
theorem Waits.run (h : Waits name channel seen announced released hub) {actions : List Action}
    (spared : ∀ action ∈ actions, action.Spares name) :
    Waits name channel seen (announced ∨ hub.Happens (Announces channel) actions)
      (released ∨ hub.Happens (Releases name) actions) (hub.after actions) := by
  induction actions using List.reverseRecOn with
  | nil =>
    rw [or_iff_left (not_happens_nil hub _), or_iff_left (not_happens_nil hub _)]
    exact h
  | append_singleton actions action ih =>
    have known := ih fun other hmem => spared other (List.mem_append_left _ hmem)
    rw [happens_concat, happens_concat, ← or_assoc, ← or_assoc, after_concat]
    exact known.step (spared action List.mem_concat_self)

/-- A channel that is closed stays so. -/
theorem closed_after (sound : hub.Sound) (known : channel < hub.stored.length)
    (closed : hub.isOpen channel = false) (actions : List Action) :
    (hub.after actions).isOpen channel = false := by
  induction actions generalizing hub with
  | nil => exact closed
  | cons action rest ih =>
    have moved := hub.move action
    exact ih (moved.sound sound) (Nat.lt_of_lt_of_le known moved.length_stored_le)
      (moved.closed known closed)

/-- Every coordinator of a run is on a channel of the run. -/
theorem sound_after (actions : List Action) : (empty.after actions).Sound := by
  induction actions using List.reverseRecOn with
  | nil => exact nofun
  | append_singleton actions action ih =>
    rw [after_concat]
    exact ((empty.after actions).move action).sound ih

/-- A waiter that just came has heard nothing. -/
theorem waits_of_subscribe (sound : hub.Sound) {source : String}
    (h : lookup? hub.coordinators source = some channel) (name : String) :
    Waits name channel (hub.storedIn channel) False False (hub.step (.subscribe name source)).2 := by
  simp only [step, h]
  exact {
    sound := sound
    known := sound _ (mem_of_lookup? h)
    least := Nat.le_refl _
    waiter := ⟨false, lookup?_set_self, by simp⟩
    heard := fun _ => iff_of_false (Nat.lt_irrefl _) id
    due := False.elim }

end Waits

/-- **Release is exact.** Take any run, a waiter that comes in the middle of it to the channel of
a coordinator, and what is done after that, as long as the waiter is there. It is due if a
coordinator of its channel made an announcement after it came, or if no coordinator of its
channel is left. Then:

- a poll leaves it waiting exactly when it is not due, and releases it exactly when it is due and
  no poll released it before;
- whatever is done next, what was due is not undone or lost;
- a trigger is always carried out, and if nobody waits it changes nothing. -/
theorem release_is_exact {before later : List Action} {name source : String} {channel : Nat}
    (handle : lookup? (empty.after before).coordinators source = some channel)
    (spared : ∀ action ∈ later, action.Spares name) :
    let start := empty.after (before ++ [.subscribe name source])
    let hub := start.after later
    let due := start.Happens (Announces channel) later ∨
      ∀ handle ∈ hub.coordinators, handle.2 ≠ channel
    let answer := fun hub : Hub => (hub.step (.poll name)).1
    (answer hub = .pending ↔ ¬ due) ∧
    (answer hub = .ready ↔ due ∧ ¬ start.Happens (Releases name) later) ∧
    (answer hub = .finished ↔ start.Happens (Releases name) later) ∧
    (due → ∀ more, (∀ action ∈ more, action.Spares name) →
      answer (hub.after more) = .ready ∨ answer (hub.after more) = .finished) ∧
    ∀ clone on, lookup? hub.coordinators clone = some on →
      (hub.step (.trigger clone)).1 = .done ∧
        (hub.isAwaited on = false → (hub.step (.trigger clone)).2 = hub) := by
  intro start hub due answer
  have came : Waits name channel ((empty.after before).storedIn channel) False False start := by
    have fresh := waits_of_subscribe (sound_after before) handle name
    rwa [← after_concat] at fresh
  have now := came.run spared
  rw [false_or, false_or] at now
  have due_iff : due ↔ start.Happens (Announces channel) later ∨ hub.isOpen channel = false :=
    or_congr_right isOpen_eq_false_iff.symm
  obtain ⟨finished, ready, pending⟩ := now.poll
  refine ⟨?_, ?_, finished, fun isDue more kept => ?_, fun clone on there => ?_⟩
  · rw [due_iff]
    exact pending
  · rw [due_iff]
    exact ready
  · obtain ⟨finished', ready', -⟩ := (now.run kept).poll
    have still : (start.Happens (Announces channel) later ∨ hub.Happens (Announces channel) more) ∨
        (hub.after more).isOpen channel = false :=
      (due_iff.mp isDue).imp .inl fun closed => closed_after now.sound now.known closed more
    by_cases was : start.Happens (Releases name) later ∨ hub.Happens (Releases name) more
    · exact .inr (finished'.mpr was)
    · exact .inl (ready'.mpr ⟨still, was⟩)
  · refine ⟨(move_trigger there).1, fun unheard => ?_⟩
    simp only [step, there, announce, send?, unheard]
    rfl

/-- A waiter that missed the announcement which it waited for, since a second one took its
place, is released all the same, and also after the coordinators are gone. -/
theorem slow_waiter_is_released :
    let before : List Action := [.create "main", .clone "signals" "main"]
    let later : List Action := [.trigger "signals", .subscribe "second" "main", .trigger "main",
      .subscribe "third" "main", .poll "third", .drop "main", .trigger "signals", .drop "signals"]
    lookup? (empty.after before).coordinators "main" = some 0 ∧
      (∀ action ∈ later, action.Spares "first") ∧
      (((empty.after (before ++ [.subscribe "first" "main"])).after later).step
        (.poll "first")).1 = .ready := by
  intro before later
  have handle : lookup? (empty.after before).coordinators "main" = some 0 := by decide
  have spared : ∀ action ∈ later, action.Spares "first" := by
    simp [later, Action.Spares]
  obtain ⟨-, ready, -⟩ := release_is_exact handle spared
  refine ⟨handle, spared, ready.mpr ⟨.inl ?_, ?_⟩⟩
  · exact ⟨[], .trigger "signals", later.tail, rfl, "signals", rfl, by decide⟩
  · rintro ⟨first, action, last, split, rfl, -⟩
    have polled : Action.poll "first" ∈ later := split ▸ by simp
    simp [later] at polled

/-- What was announced before a waiter came is not for it. -/
example :
    (empty.run [.create "main", .subscribe "early" "main", .trigger "main",
      .subscribe "late" "main", .poll "late", .poll "early", .trigger "main", .trigger "main",
      .poll "late", .poll "late"]).1 =
      [.done, .done, .done, .done, .pending, .ready, .done, .done, .ready, .finished] := by
  decide

end Hub

end GitGateway.Shutdown
