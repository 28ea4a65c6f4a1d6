/-!
# Shutdown

Coordinators announce the end, and waiters are released by it. A coordinator and
its clones share a channel that holds the latest announcement only.

- a waiter starts where its channel stands, so earlier announcements are not for it;
- an announcement is stored if someone waits for it, and dropped otherwise;
- a waiter that is polled comes upon the stored announcement; or, if later ones have
  taken its place, upon the fact that it missed some; or, if there was none and no
  coordinator of its channel is left, upon the end of the channel. It is released
  by any of the three, and else goes on waiting;
- once released, a waiter is done, and no longer counts as one.

`Hub` holds all channels of a run; its coordinators and waiters go by name.
-/

namespace GitGateway.Shutdown

/-- Someone who waits for an announcement. -/
structure Waiter where
  channel : Nat
  /-- The announcements that were stored before it came. -/
  seen : Nat
  released : Bool := false
  deriving DecidableEq, Repr

/-- How many announcements a channel holds. -/
def capacity : Nat := 1

/-- What a waiter comes upon in its channel. -/
inductive Notice where
  /-- The announcement that it waits for. -/
  | announcement
  /-- So many announcements were not seen in time and are gone. -/
  | missed (count : Nat)
  /-- Nothing is left to be seen, and nobody is left to announce anything. -/
  | closed
  deriving DecidableEq, Repr

/-- The coordinators and waiters of a run. -/
structure Hub where
  /-- For each channel, how many announcements it has stored, those included that
  later ones have taken the place of. -/
  stored : List Nat
  /-- The channel of each coordinator. -/
  coordinators : List (String × Nat)
  waiters : List (String × Waiter)
  deriving DecidableEq, Repr

/-- Something that is done to a coordinator or a waiter. -/
inductive Action where
  /-- A coordinator with a channel of its own. -/
  | create (name : String)
  /-- A coordinator on the channel of another. -/
  | clone (name source : String)
  | drop (name : String)
  | trigger (name : String)
  /-- A waiter on the channel of a coordinator. -/
  | subscribe (name source : String)
  | unsubscribe (name : String)
  | poll (name : String)
  deriving DecidableEq, Repr

/-- What comes of an action. -/
inductive Answer where
  | done
  /-- The waiter goes on waiting. -/
  | pending
  /-- The waiter is released by this poll. -/
  | ready
  /-- The waiter was released before. -/
  | finished
  /-- There is no such coordinator or waiter. -/
  | unknown
  deriving DecidableEq, Repr

/-- The value of a name. -/
def lookup? {α : Type} (entries : List (String × α)) (name : String) : Option α :=
  (entries.find? fun entry => entry.1 == name).map Prod.snd

/-- The entries without a name. -/
def without {α : Type} (entries : List (String × α)) (name : String) : List (String × α) :=
  entries.filter fun entry => entry.1 != name

/-- The entries with a new value for a name. -/
def set {α : Type} (entries : List (String × α)) (name : String) (value : α) :
    List (String × α) :=
  (name, value) :: without entries name

namespace Hub

/-- No coordinator yet. -/
def empty : Hub := ⟨[], [], []⟩

/-- How many announcements a channel has stored. -/
def storedIn (hub : Hub) (channel : Nat) : Nat :=
  hub.stored[channel]?.getD 0

/-- Whether anyone waits on a channel. -/
def isAwaited (hub : Hub) (channel : Nat) : Bool :=
  hub.waiters.any fun entry => entry.2.channel == channel && !entry.2.released

/-- Whether a coordinator of a channel is left. -/
def isOpen (hub : Hub) (channel : Nat) : Bool :=
  hub.coordinators.any fun entry => entry.2 == channel

/-- What a waiter comes upon, if there is anything yet. -/
def receive? (hub : Hub) (waiter : Waiter) : Option Notice :=
  let stored := hub.storedIn waiter.channel
  if waiter.seen + capacity < stored then some (.missed (stored - capacity - waiter.seen))
  else if waiter.seen < stored then some .announcement
  else if hub.isOpen waiter.channel then none
  else some .closed

/-- Sends an announcement to those who wait on a channel. It is an error if there are
none, and then nothing is stored. -/
def send? (hub : Hub) (channel : Nat) : Option Hub :=
  if hub.isAwaited channel then
    some { hub with stored := hub.stored.set channel (hub.storedIn channel + 1) }
  else none

/-- An announcement on a channel. That nobody hears it is no concern of the one who
makes it. -/
def announce (hub : Hub) (channel : Nat) : Hub :=
  (hub.send? channel).getD hub

/-- One action. -/
def step (hub : Hub) : Action → Answer × Hub
  | .create name =>
    (.done, { hub with
      stored := hub.stored ++ [0]
      coordinators := set hub.coordinators name hub.stored.length })
  | .clone name source =>
    match lookup? hub.coordinators source with
    | none => (.unknown, hub)
    | some channel => (.done, { hub with coordinators := set hub.coordinators name channel })
  | .drop name =>
    match lookup? hub.coordinators name with
    | none => (.unknown, hub)
    | some _ => (.done, { hub with coordinators := without hub.coordinators name })
  | .trigger name =>
    match lookup? hub.coordinators name with
    | none => (.unknown, hub)
    | some channel => (.done, hub.announce channel)
  | .subscribe name source =>
    match lookup? hub.coordinators source with
    | none => (.unknown, hub)
    | some channel =>
      let waiter : Waiter := { channel := channel, seen := hub.storedIn channel }
      (.done, { hub with waiters := set hub.waiters name waiter })
  | .unsubscribe name =>
    match lookup? hub.waiters name with
    | none => (.unknown, hub)
    | some _ => (.done, { hub with waiters := without hub.waiters name })
  | .poll name =>
    match lookup? hub.waiters name with
    | none => (.unknown, hub)
    | some waiter =>
      if waiter.released then (.finished, hub)
      else match hub.receive? waiter with
        | none => (.pending, hub)
        | some _ =>
          (.ready, { hub with waiters := set hub.waiters name { waiter with released := true } })

/-- A run of actions, with the answer to each. -/
def run (hub : Hub) : List Action → List Answer × Hub
  | [] => ([], hub)
  | action :: rest =>
    let (answer, hub) := hub.step action
    let (answers, hub) := run hub rest
    (answer :: answers, hub)

end Hub

end GitGateway.Shutdown
