import Hotkeys.Backend.Kind
import Hotkeys.Backend.Portable
import Hotkeys.Backend.Simulated
import Hotkeys.Listeners

/-!
# Backends

A backend registers combinations with an operating system and gives them up again. Every call is
made under conditions that decide whether it can succeed at all.
-/

namespace Hotkeys

/-- What the backend gives out for a registration and takes back for its release. -/
inductive OsHandle
  | numbered (n : Nat)
  | combination (chord : Chord)
  deriving DecidableEq, Repr

/-- The conditions of a call to a backend, and of storing the handler of a script. -/
structure Conditions where
  /-- While set, no registration reaches the backend. -/
  registrationFault : Option String := none
  /-- Where set, the release of the identifier does not reach the backend. -/
  releaseFault : HotkeyId → Option String := fun _ => none
  /-- Where set, the system refuses the release of the identifier. -/
  refusal : HotkeyId → Option String := fun _ => none
  onOwnerThread : Bool := true
  /-- While set, no handler of a script can be stored. -/
  storeFault : Option String := none

/-- The part of the operating system that registers combinations, in one of the two ways that the
program has for it. -/
inductive Backend
  | simulated (s : Backend.Simulated)
  | portable (p : Backend.Portable)

namespace Backend

/-- A backend without registrations; any kind but the portable one is played. -/
def ofKind : Kind → Backend
  | .portable => portable {}
  | _ => simulated {}

/-- The name of the backend. -/
def name : Backend → String
  | simulated _ => "simulated"
  | portable _ => "portable"

/-- How many registrations are live, where the system tells. -/
def liveCount? : Backend → Option Nat
  | simulated s => some s.liveCount
  | portable _ => none

/-- Whether the system sends events for the identifier. -/
def hears : Backend → HotkeyId → Bool
  | simulated s, id => s.hears id
  | portable p, id => p.entries.values.contains id

/-- The system sends an event on its way if it has a registration for the identifier. An event that
is not sent is not consumed, and nobody learns of it. -/
def fire {σ : Type} (b : Backend) (dispatch : Event → σ → Bool × σ) (e : Event) (s : σ) :
    Bool × σ :=
  if b.hears e.id then dispatch e s else (false, s)

/-- Whether the system has the combination registered. -/
def isBound : Backend → Chord → Bool
  | simulated s, chord => s.isBound chord
  | portable p, chord => (p.get? chord).isSome

/-- Registers a combination with the system, unless the conditions have the call fail before it is
reached. The result is what names the registration when it is given up. -/
def register (b : Backend) (env : Conditions) (id : HotkeyId) (chord : Chord) :
    Except Error (OsHandle × Backend) :=
  match env.registrationFault with
  | some reason => .error (.backend reason)
  | none =>
    match b with
    | simulated s => (s.register id chord).map fun (n, s) => (.numbered n, simulated s)
    | portable p =>
      (p.register env.onOwnerThread id chord).map fun p => (.combination chord, portable p)

/-- Gives a registration up. A fault of the conditions comes before the backend is asked, and a
backend knows nothing of what another one has given out. -/
def release (b : Backend) (env : Conditions) (id : HotkeyId) (os : OsHandle) :
    Except Error Backend :=
  match env.releaseFault id with
  | some reason => .error (.unregistration id reason)
  | none =>
    match b, os with
    | simulated s, .numbered n => (s.release id n).map simulated
    | portable p, .combination chord =>
      (p.release env.onOwnerThread (env.refusal id) id chord).map portable
    | _, _ => .error (.unregistration id "handle is not live")

end Backend

end Hotkeys
