import Hotkeys.Backend.Basic
import Hotkeys.Table

/-!
# Handles of live registrations

Each registration is known by a handle: the identifier and a serial number that is never given out
again. An identifier may be registered anew once it is free, and the handles of its earlier
registrations stay dead.
-/

namespace Hotkeys

/-- What a caller holds of a registration. -/
structure Handle where
  id : HotkeyId
  /-- Tells the registration from all others of the identifier. It is a natural number where a
  machine has a word of 64 bits, which is the same while fewer than `2 ^ 64` registrations have
  been made. -/
  serial : Nat
  deriving DecidableEq, Repr

/-- What is kept for a live registration. -/
structure Holding where
  os : OsHandle
  chord : Chord
  serial : Nat
  deriving DecidableEq, Repr

/-- A registration that has been taken out of the table and is still held by the system. -/
structure Detached where
  id : HotkeyId
  os : OsHandle
  deriving DecidableEq, Repr

/-- Asks the backend to give up what has been taken out. -/
def Detached.release (d : Detached) (b : Backend) (env : Conditions) : Except Error Backend :=
  b.release env d.id d.os

/-- The table of live registrations. -/
structure Handles where
  live : Table HotkeyId Holding := {}
  /-- The serial number of the next registration, one up for each. It does not wrap around, and a
  word of 64 bits does not either while fewer than `2 ^ 64` registrations have been made. -/
  nextSerial : Nat := 1

namespace Handles

/-- Whether the identifier has a live registration. -/
def contains (t : Handles) (id : HotkeyId) : Bool := t.live.contains id

/-- The number of live registrations. -/
def size (t : Handles) : Nat := t.live.size

/-- Whether there is no live registration. -/
def isEmpty (t : Handles) : Bool := t.live.isEmpty

/-- The identifiers in ascending order. -/
def ids (t : Handles) : List HotkeyId := t.live.keys.mergeSort fun a b => a ≤ b

/-- The combination that an identifier is registered for. -/
def chord? (t : Handles) (id : HotkeyId) : Option Chord := (t.live.get? id).map (·.chord)

/-- The live handle of an identifier. -/
def handle? (t : Handles) (id : HotkeyId) : Option Handle :=
  (t.live.get? id).map fun h => ⟨id, h.serial⟩

/-- Whether a handle is the one of a live registration. -/
def isLive (t : Handles) (h : Handle) : Bool := t.handle? h.id == some h

/-- Registers a combination with the backend and gives out a handle for it. -/
def register (t : Handles) (b : Backend) (env : Conditions) (id : HotkeyId) (chord : Chord) :
    Except Error (Handle × Handles × Backend) :=
  if t.contains id then .error (.duplicateIdentifier id)
  else do
    let (os, b) ← b.register env id chord
    let holding : Holding := ⟨os, chord, t.nextSerial⟩
    return (⟨id, t.nextSerial⟩,
      { live := t.live.insert id holding, nextSerial := t.nextSerial + 1 }, b)

/-- Takes a registration out of the table and leaves it to the caller to release it. -/
def detach (t : Handles) (h : Handle) : Except Error (Detached × Handles) :=
  match t.live.get? h.id with
  | some holding =>
    if holding.serial = h.serial then
      .ok (⟨h.id, holding.os⟩, { t with live := t.live.erase h.id })
    else .error (.doubleRelease h.id)
  | none => .error (.doubleRelease h.id)

/-- Takes a registration out of the table and releases it. It is out of the table even where the
release fails. -/
def unregister (t : Handles) (b : Backend) (env : Conditions) (h : Handle) :
    Except Error Unit × Handles × Backend :=
  match t.detach h with
  | .error e => (.error e, t, b)
  | .ok (d, t) =>
    match d.release b env with
    | .ok b => (.ok (), t, b)
    | .error e => (.error e, t, b)

/-- Takes all registrations out of the table. -/
def detachAll (t : Handles) : List Detached × Handles :=
  (t.live.entries.map fun (id, holding) => ⟨id, holding.os⟩, { t with live := .empty })

end Handles

end Hotkeys
