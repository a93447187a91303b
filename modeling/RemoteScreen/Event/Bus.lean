import RemoteScreen.Event.Basic

/-!
# Event/Bus — events handed to those who subscribed

The bus keeps the latest events, as many as it has room for.  A receiver is a **position** in the
sequence of all events sent: what stands before it has been received or lost.

A receiver whose position is behind everything kept has lost events.  It is told so once.  One that
waits for events then goes on with those sent later; one that only looks for events goes on with the
oldest kept.
-/

namespace RemoteScreen

/-- Why the bus does not do as asked. -/
inductive BusError where
  | nobodyListens
  | closed
  | lagged (lost : Nat)
  deriving DecidableEq, Repr

/-- The wording of why the bus does not do as asked. -/
def BusError.message : BusError → String
  | nobodyListens => "Failed to send event: channel closed"
  | closed => "Failed to receive event: channel closed"
  | lagged n => "Receiver lagged behind by " ++ toString n ++ " events"

/-- The latest events and the positions of the receivers. -/
structure Bus where
  /-- How many events are kept. -/
  room : Nat
  /-- How many events have been sent. -/
  sent : Nat := 0
  /-- The latest events, the oldest first. -/
  kept : List Event := []
  /-- The position of each receiver, by number; none for one that has left. -/
  positions : List (Option Nat) := []
  closed : Bool := false
  deriving DecidableEq

namespace Bus

/-- A bus with room for so many events, rounded up to a power of two. -/
def new (capacity : Nat) : Bus := { room := (max capacity 1).nextPowerOfTwo }

/-- How many receivers there are. -/
def subscribers (b : Bus) : Nat := b.positions.countP Option.isSome

/-- A new receiver, which gets what is sent from now on. -/
def subscribe (b : Bus) : Nat × Bus :=
  (b.positions.length, { b with positions := b.positions ++ [some b.sent] })

/-- Moves a receiver. -/
def move (b : Bus) (receiver : Nat) (position : Option Nat) : Bus :=
  { b with positions := b.positions.set receiver position }

/-- A receiver leaves. -/
def leave (b : Bus) (receiver : Nat) : Bus := b.move receiver none

/-- Nothing more is sent. -/
def close (b : Bus) : Bus := { b with closed := true }

/-- Sends an event; somebody has to listen. -/
def publish (b : Bus) (e : Event) : Except BusError Bus :=
  if b.subscribers = 0 then .error .nobodyListens
  else
    let kept := b.kept ++ [e]
    .ok { b with sent := b.sent + 1, kept := kept.drop (kept.length - b.room) }

/-- What a position shows. -/
inductive View where
  | event (e : Event)
  | nothing
  | lost (count : Nat)
  deriving DecidableEq

/-- The number of the oldest event kept. -/
def oldest (b : Bus) : Nat := b.sent - b.kept.length

/-- What a position shows. -/
def view (b : Bus) (position : Nat) : View :=
  if position < b.oldest then .lost (b.oldest - position)
  else
    match b.kept[position - b.oldest]? with
    | some e => .event e
    | none => .nothing

/-- The position of a receiver. -/
def position? (b : Bus) (receiver : Nat) : Option Nat := (b.positions[receiver]?).join

/-- What a receiver that waits gets at once: an event, nothing yet, or a complaint. -/
def receive (b : Bus) (receiver : Nat) : Except BusError (Option Event) × Bus :=
  match b.position? receiver with
  | none => (.ok none, b)
  | some p =>
    match b.view p with
    | .event e => (.ok (some e), b.move receiver (some (p + 1)))
    | .lost n => (.error (.lagged n), b.move receiver (some b.sent))
    | .nothing => (if b.closed then .error .closed else .ok none, b)

/-- What a receiver that only looks gets: an event, or none. -/
def look (b : Bus) (receiver : Nat) : Option Event × Bus :=
  match b.position? receiver with
  | none => (none, b)
  | some p =>
    match b.view p with
    | .event e => (some e, b.move receiver (some (p + 1)))
    | .lost _ => (none, b.move receiver (some b.oldest))
    | .nothing => (none, b)

end Bus

end RemoteScreen
