import Hotkeys.Handles
import Hotkeys.Listeners
import Hotkeys.Phase

/-!
# The bridge between events and handlers

A bridge registers combinations with a backend and keeps a slot for the handler of each identifier.
Its operations are pure: each takes the bridge to a new one and tells what it comes to.

## Implementation notes

A slot holds a cell, and a dispatch that is under way holds the cell that it found when it began.
A cell is given back once neither a slot nor a dispatch holds it. `counter` counts the cells that
have not been given back. It is kept by addition and subtraction and never read off the tables, and
it would fall below zero if a cell were given back twice.
-/

namespace Hotkeys

/-! ## Free identifiers -/

/-- The first of `n` candidates from `base` on that is not taken. -/
def firstFree (taken : HotkeyId → Bool) : Nat → Nat → Option HotkeyId
  | 0, _ => none
  | n + 1, base =>
    let id := UInt32.ofNat base
    if taken id then firstFree taken n (base + 1) else some id

/-- The least identifier from `base` on that is not taken; there is none if all up to the largest
one are taken. -/
def freeId (taken : HotkeyId → Bool) (base : HotkeyId) : Option HotkeyId :=
  firstFree taken (UInt32.size - base.toNat) base.toNat

/-! ## Bridges -/

/-- What an operation of the bridge comes to. -/
inductive Outcome (α : Type)
  | done (a : α)
  | failed (e : Error)
  /-- A strict bridge does not go on after an error of the program that uses it. -/
  | aborted (e : Error)
  deriving DecidableEq, Repr

/-- The message with which a strict bridge aborts. -/
def Outcome.abortText (e : Error) : String := s!"hotkey programming error: {e.message}"

/-- A stored handler. Its token tells it from every other cell. -/
structure Cell (H : Type) where
  token : Nat
  id : HotkeyId
  handler : H

/-- A bridge with handlers of type `H`: the registrations and slots that it keeps, the dispatches
that are under way, and those who listen to its events. -/
structure Bridge (H : Type) where
  backend : Backend
  strict : Bool := true
  /-- Whether the owner still holds the bridge. A bridge that its owner has dropped lives until the
  last dispatch that is under way has ended. -/
  held : Bool := true
  handles : Handles := {}
  slots : Table HotkeyId (Cell H) := {}
  /-- The cells that the dispatches under way have found, innermost first. -/
  running : List (Option (Cell H)) := []
  nextToken : Nat := 1
  /-- One up for a cell that is stored, one down for a cell that is given back. -/
  counter : Int := 0
  listeners : Listeners := {}

namespace Bridge

variable {H : Type}

/-- A bridge on which nothing has been done yet. -/
def new (backend : Backend) (strict : Bool) : Bridge H := { backend, strict }

/-- Whether the bridge is still there, be it for its owner or for a dispatch that is under way. -/
def isAlive (b : Bridge H) : Bool := b.held || !b.running.isEmpty

/-- Whether the identifier has a live registration. -/
def isRegistered (b : Bridge H) (id : HotkeyId) : Bool := b.handles.contains id

/-- Whether the identifier has a handler. -/
def isBound (b : Bridge H) (id : HotkeyId) : Bool := b.slots.contains id

/-- The live handle of an identifier. -/
def handle? (b : Bridge H) (id : HotkeyId) : Option Handle := b.handles.handle? id

/-- The combination that an identifier is registered for. -/
def chord? (b : Bridge H) (id : HotkeyId) : Option Chord := b.handles.chord? id

/-- The number of live registrations. -/
def size (b : Bridge H) : Nat := b.handles.size

/-- Whether nothing is registered. -/
def isEmpty (b : Bridge H) : Bool := b.handles.isEmpty

/-- The live identifiers in ascending order. -/
def ids (b : Bridge H) : List HotkeyId := b.handles.ids

/-- The number of identifiers that have a handler. -/
def boundCount (b : Bridge H) : Nat := b.slots.size

/-- The number of cells that have not been given back. -/
def liveSlots (b : Bridge H) : Nat := b.counter.toNat

/-- The least identifier from `base` on that is not registered. -/
def nextFree (b : Bridge H) (base : HotkeyId) : Option HotkeyId := freeId b.isRegistered base

/-- What becomes of an error: a strict bridge aborts on an error of the calling program. -/
def report {α : Type} (b : Bridge H) (e : Error) : Outcome α :=
  if e.isProgrammingError && b.strict then .aborted e else .failed e

/-- The phase of an identifier, read off the two tables. Tables that contradict each other are
reported as an error of the calling program. -/
def phase (b : Bridge H) (id : HotkeyId) : Outcome Phase :=
  match Phase.ofParts id (b.isRegistered id) (b.isBound id) with
  | .ok p => .done p
  | .error breach => b.report breach.error

/-- Goes on with the phase of an identifier. -/
def withPhase {α : Type} (b : Bridge H) (id : HotkeyId) (next : Phase → Outcome α × Bridge H) :
    Outcome α × Bridge H :=
  match b.phase id with
  | .done p => next p
  | .failed e => (.failed e, b)
  | .aborted e => (.aborted e, b)

/-- Whether a slot or a dispatch under way holds the cell. -/
def holds (b : Bridge H) (c : Cell H) : Bool :=
  (b.slots.get? c.id).any (·.token == c.token) ||
    b.running.any fun frame => frame.any (·.token == c.token)

/-- Gives a cell back unless it is still held. -/
def reclaim (b : Bridge H) (c : Cell H) : Bridge H :=
  if b.holds c then b else { b with counter := b.counter - 1 }

/-- Empties the slot of an identifier. -/
def clearSlot (b : Bridge H) (id : HotkeyId) : Bridge H :=
  match b.slots.get? id with
  | none => b
  | some c => { b with slots := b.slots.erase id }.reclaim c

/-- Registers a combination for a free identifier and gives out its handle. -/
def register (b : Bridge H) (env : Conditions) (id : HotkeyId) (chord : Chord) :
    Outcome Handle × Bridge H :=
  b.withPhase id fun p =>
    if p.isRegistered then (.failed (.duplicateIdentifier id), b)
    else match Phase.checkTransition id p .registered with
      | .error breach => (b.report breach.error, b)
      | .ok () =>
        match b.handles.register b.backend env id chord with
        | .error e => (.failed e, b)
        | .ok (h, handles, backend) => (.done h, { b with handles, backend })

/-- Stores a handler in a new cell. -/
def store (b : Bridge H) (id : HotkeyId) (handler : H) : Cell H × Bridge H :=
  (⟨b.nextToken, id, handler⟩,
    { b with nextToken := b.nextToken + 1, counter := b.counter + 1 })

/-- Binds a handler to a registered identifier. The store of the handler may refuse it, and that
comes before everything else. A cell that finds no place is given back. -/
def bind (b : Bridge H) (refusal : Option String) (id : HotkeyId) (handler : H) :
    Outcome Unit × Bridge H :=
  match refusal with
  | some reason => (.failed (.slotAllocation id reason), b)
  | none =>
    let (c, b) := b.store id handler
    match b.phase id with
    | .done .registered => (.done (), { b with slots := b.slots.insert id c })
    | .done .bound => (.failed (.alreadyBound id), b.reclaim c)
    | .done .unregistered => (.failed (.unknownIdentifier id), b.reclaim c)
    | .failed e => (.failed e, b.reclaim c)
    | .aborted e => (.aborted e, b.reclaim c)

/-- Takes the handler away and leaves the identifier registered. -/
def unbind (b : Bridge H) (id : HotkeyId) : Outcome Unit × Bridge H :=
  b.withPhase id fun
    | .unregistered => (.failed (.unknownIdentifier id), b)
    | .registered => (b.report (.doubleRelease id), b)
    | .bound =>
      match Phase.checkTransition id .bound .registered with
      | .error breach => (b.report breach.error, b)
      | .ok () => (.done (), b.clearSlot id)

/-- Gives up the registration that a handle stands for, with its handler. Both are gone even where
the system refuses to release the combination. -/
def unregisterHandle (b : Bridge H) (env : Conditions) (h : Handle) : Outcome Unit × Bridge H :=
  b.withPhase h.id fun p =>
    match b.handles.detach h with
    | .error e => (b.report e, b)
    | .ok (detached, handles) =>
      let c := b.slots.get? h.id
      let b := { b with handles, slots := b.slots.erase h.id }
      match Phase.checkTransition h.id p .unregistered, b.strict with
      | .error breach, true => (.aborted breach.error, c.elim b b.reclaim)
      | _, _ =>
        let (result, b) : Outcome Unit × Bridge H :=
          match detached.release b.backend env with
          | .ok backend => (.done (), { b with backend })
          | .error e => (.failed e, b)
        (result, c.elim b b.reclaim)

/-- Gives up the registration of an identifier. -/
def unregister (b : Bridge H) (env : Conditions) (id : HotkeyId) : Outcome Unit × Bridge H :=
  match b.handle? id with
  | none => (.failed (.unknownIdentifier id), b)
  | some h =>
    match b.unregisterHandle env h with
    | (.failed (.doubleRelease _), b) => (.failed (.unknownIdentifier id), b)
    | r => r

/-- Registers a combination and binds a handler to it, or does neither. -/
def registerAndBind (b : Bridge H) (env : Conditions) (refusal : Option String) (id : HotkeyId)
    (chord : Chord) (handler : H) : Outcome Handle × Bridge H :=
  match b.register env id chord with
  | (.done h, b) =>
    match b.bind refusal id handler with
    | (.done (), b) => (.done h, b)
    | (.aborted e, b) => (.aborted e, b)
    | (.failed e, b) =>
      match b.unregisterHandle env h with
      | (.aborted e, b) => (.aborted e, b)
      | (_, b) => (.failed e, b)
  | r => r

/-- Releases what has been detached, as far as the system lets it. -/
def releaseAll (b : Bridge H) (env : Conditions) (detached : List Detached) : Bridge H :=
  detached.foldl (fun b d =>
    match d.release b.backend env with
    | .ok backend => { b with backend }
    | .error _ => b) b

/-- Gives up all registrations with their handlers; the result is their number. -/
def shutdown (b : Bridge H) (env : Conditions) : Nat × Bridge H :=
  let (detached, handles) := b.handles.detachAll
  let cells := b.slots.values
  let b := { b with handles, slots := .empty }
  (detached.length, cells.foldl reclaim (b.releaseAll env detached))

/-- Begins a dispatch to a registered identifier: it holds the cell that is bound at that moment.
-/
def enter (b : Bridge H) (id : HotkeyId) : Option (Bridge H) :=
  if b.isRegistered id then some { b with running := b.slots.get? id :: b.running } else none

/-- The handler of the innermost dispatch, unless it has been taken away since the dispatch began.
-/
def current? (b : Bridge H) : Option H :=
  match b.running with
  | some c :: _ =>
    if (b.slots.get? c.id).any (·.token == c.token) then some c.handler else none
  | _ => none

/-- Ends the innermost dispatch. -/
def leave (b : Bridge H) : Bridge H :=
  match b.running with
  | [] => b
  | none :: rest => { b with running := rest }
  | some c :: rest => { b with running := rest }.reclaim c

end Bridge

end Hotkeys
