import Hotkeys.Bridge.Dispatch
import Hotkeys.Script.Exception
import Hotkeys.Script.Value

/-!
# Hotkey objects of scripts

A script makes hotkey objects and enables and disables them. Each object owns an identifier, which
is reserved for it as long as the object exists, and the handle that its latest enabling obtained.
An object gives up only what that handle stands for: where the bridge has another handle for the
identifier, or none, disabling the object changes nothing.
-/

namespace Hotkeys.Script

/-- A hotkey object of a script. It has a handle from the time it is enabled, which may be dead by
now. -/
structure HotkeyObject (φ : Type) where
  number : Nat
  id : HotkeyId
  chord : Chord
  handler : φ
  handle : Option Handle := none

/-- The library as scripts see it: a bridge, the identifiers that are reserved, and the objects. -/
structure Runtime (φ : Type) where
  bridge : Bridge φ
  /-- Where the identifiers for objects begin. -/
  idBase : HotkeyId := 1000
  /-- The identifiers of the objects that exist. -/
  reserved : List HotkeyId := []
  objects : List (HotkeyObject φ) := []
  /-- The number of the next object. -/
  next : Nat := 1

namespace Runtime

variable {φ : Type}

/-- The object with a number, as long as no script has lost it. -/
def object? (r : Runtime φ) (n : Nat) : Option (HotkeyObject φ) :=
  r.objects.find? fun o => o.number == n

/-- Changes one object. -/
def updateObject (r : Runtime φ) (n : Nat) (f : HotkeyObject φ → HotkeyObject φ) : Runtime φ :=
  { r with objects := r.objects.map fun o => if o.number == n then f o else o }

/-- The identifier of an object. -/
def idOf (r : Runtime φ) (n : Nat) : Option HotkeyId := (r.object? n).map (·.id)

/-- The handle of an identifier, if there still is a bridge. -/
def liveHandle? (r : Runtime φ) (id : HotkeyId) : Option Handle :=
  if r.bridge.isAlive then r.bridge.handle? id else none

/-- An object is enabled as long as the bridge has its handle. -/
def isEnabled (r : Runtime φ) (o : HotkeyObject φ) : Bool :=
  o.handle.any fun h => r.liveHandle? o.id == some h

/-- Whether an identifier cannot be given to a new object. -/
def isTaken (r : Runtime φ) (id : HotkeyId) : Bool :=
  r.reserved.contains id || (r.bridge.isAlive && r.bridge.isRegistered id)

/-- Reserves the least identifier that can be given to a new object. -/
def allocate (r : Runtime φ) : Except Exception (HotkeyId × Runtime φ) :=
  match freeId r.isTaken r.idBase with
  | none => .error (.idsExhausted r.idBase)
  | some id => .ok (id, { r with reserved := id :: r.reserved })

/-- Makes an object for a combination; the result is its number. -/
def create (r : Runtime φ) (chord : Chord) (handler : φ) : Except Exception (Nat × Runtime φ) :=
  r.allocate.map fun (id, r) =>
    (r.next, { r with
      objects := r.objects ++ [{ number := r.next, id, chord, handler }]
      next := r.next + 1 })

/-- Registers the combination of an object and binds its handler, unless that is done already. -/
def enable (r : Runtime φ) (env : Conditions) (n : Nat) : Except String Unit × Runtime φ :=
  match r.object? n with
  | none => (.ok (), r)
  | some o =>
    if r.isEnabled o then (.ok (), r)
    else if ¬ r.bridge.isAlive then (.error "hotkey runtime is shut down", r)
    else match r.bridge.registerAndBind env env.storeFault o.id o.chord o.handler with
      | (.done h, bridge) =>
        (.ok (), { r with bridge }.updateObject n fun o => { o with handle := some h })
      | (.failed e, bridge) => (.error e.message, { r with bridge })
      | (.aborted e, bridge) => (.error e.message, { r with bridge })

/-- What the bridge does when an object gives up its registration, and what it comes to. The bridge
is left alone unless it still has the handle of the object. -/
def release (r : Runtime φ) (env : Conditions) (o : HotkeyObject φ) : Outcome Unit × Bridge φ :=
  match o.handle with
  | none => (.done (), r.bridge)
  | some h =>
    if r.liveHandle? o.id == some h then r.bridge.unregisterHandle env h else (.done (), r.bridge)

/-- Gives up what the object has registered, if that is still registered. -/
def disable (r : Runtime φ) (env : Conditions) (n : Nat) : Runtime φ :=
  match r.object? n with
  | none => r
  | some o =>
    { r.updateObject n fun o => { o with handle := none } with bridge := (r.release env o).2 }

/-- Ends the life of an object: it is disabled, and its identifier is free again. -/
def dropObject (r : Runtime φ) (env : Conditions) (n : Nat) : Runtime φ :=
  match r.object? n with
  | none => r
  | some o =>
    let r := r.disable env n
    { r with
      objects := r.objects.filter fun o => o.number != n
      reserved := r.reserved.filter (· != o.id) }

/-- Ends the life of all objects but those that can still be reached. -/
def collect (r : Runtime φ) (env : Conditions) (reachable : List Nat) : Runtime φ :=
  r.objects.foldl (fun r o => if reachable.contains o.number then r else r.dropObject env o.number)
    r

/-- The identifiers that are registered, if there still is a bridge. -/
def ids (r : Runtime φ) : List HotkeyId := if r.bridge.isAlive then r.bridge.ids else []

/-- Gives up all registrations; the objects stay. -/
def shutdown (r : Runtime φ) (env : Conditions) : Nat × Runtime φ :=
  let (n, bridge) := r.bridge.shutdown env
  (n, { r with bridge })

end Runtime

end Hotkeys.Script
