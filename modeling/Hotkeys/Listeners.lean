import Hotkeys.Error
import Hotkeys.Json.Basic

/-!
# Events and those who listen to them

Every listener has a queue of its own with room for 64 events. An event for which there is no room
is lost to that listener alone. The sending side keeps the listeners in the order in which they
came, and forgets one that has closed as soon as it offers an event to it.
-/

namespace Hotkeys

/-- A key of a registered combination went down or came up. -/
structure Event where
  id : HotkeyId
  down : Bool
  deriving DecidableEq, Repr, Inhabited

/-- An event as a document. -/
def Event.json (e : Event) : Json := .object [("id", .word e.id), ("is_down", .bool e.down)]

/-- The reading end of a listener. -/
structure Listener where
  isOpen : Bool := true
  queue : List Event := []
  deriving DecidableEq, Repr

/-- The listeners of a bridge, open and closed. -/
structure Listeners where
  /-- All listeners that there have ever been, in order. -/
  all : List Listener := []
  /-- The indices of those that events are sent to. -/
  senders : List Nat := []

namespace Listeners

/-- The number of events that wait for a listener at most. -/
def capacity : Nat := 64

/-- The listener with an index. -/
def get? (l : Listeners) (i : Nat) : Option Listener := l.all[i]?

/-- The listener, unless it has closed. -/
def open? (l : Listeners) (i : Nat) : Option Listener := (l.get? i).filter (·.isOpen)

/-- Whether there is an open listener with the index. -/
def isOpen (l : Listeners) (i : Nat) : Bool := (l.open? i).isSome

/-- The number of listeners that events are sent to. -/
def count (l : Listeners) : Nat := l.senders.length

/-- Changes one listener. -/
def update (l : Listeners) (i : Nat) (f : Listener → Listener) : Listeners :=
  { l with all := l.all.modify i f }

/-- Adds a listener; the result is its index. -/
def subscribe (l : Listeners) : Nat × Listeners :=
  (l.all.length, { all := l.all ++ [{}], senders := l.senders ++ [l.all.length] })

/-- Closes a listener from its own end. -/
def close (l : Listeners) (i : Nat) : Listeners :=
  l.update i fun listener => { listener with isOpen := false, queue := [] }

/-- Forgets the listeners that have closed. -/
def cleanup (l : Listeners) : Listeners := { l with senders := l.senders.filter l.isOpen }

/-- Takes all waiting events of a listener. -/
def drain (l : Listeners) (i : Nat) : List Event × Listeners :=
  (((l.get? i).map (·.queue)).getD [], l.update i fun listener => { listener with queue := [] })

/-- Takes the event that has waited longest. -/
def take? (l : Listeners) (i : Nat) : Option (Event × Listeners) :=
  match (l.open? i).map (·.queue) with
  | some (e :: rest) => some (e, l.update i fun listener => { listener with queue := rest })
  | _ => none

/-- Offers an event to one listener. The flag tells whether the event has been queued. -/
def offer (l : Listeners) (i : Nat) (e : Event) : Bool × Listeners :=
  match l.open? i with
  | none => (false, { l with senders := l.senders.filter (· != i) })
  | some listener =>
    if listener.queue.length < capacity then
      (true, l.update i fun listener => { listener with queue := listener.queue ++ [e] })
    else (false, l)

/-- No event is sent to the listener any more. -/
def disconnect (l : Listeners) (i : Nat) : Listeners :=
  { l with senders := l.senders.filter (· != i) }

end Listeners

end Hotkeys
