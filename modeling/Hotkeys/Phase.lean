import Hotkeys.Error

/-!
# The phase of an identifier

An identifier is unregistered, registered, or registered and bound to a handler. Its phase follows
from what is held for it: a handle, and a slot for a handler. A slot without a handle is no phase.
-/

namespace Hotkeys

/-- How far an identifier has got: nothing, a registration, or a registration with a handler. -/
inductive Phase
  | unregistered
  | registered
  | bound
  deriving DecidableEq, Repr, Inhabited

namespace Phase

/-- The phase of an identifier of which nothing is known. -/
def initial : Phase := unregistered

/-- The name of a phase in messages. -/
def name : Phase → String
  | unregistered => "Unregistered"
  | registered => "Registered"
  | bound => "Bound"

/-- All phases, in the order in which an identifier goes through them. -/
def all : List Phase := [unregistered, registered, bound]

def named? (name : String) : Option Phase := all.find? fun p => p.name == name

/-- Whether there is a registration in this phase. -/
def isRegistered : Phase → Bool
  | unregistered => false
  | _ => true

/-- Whether there is a handler in this phase. -/
def isBound : Phase → Bool
  | bound => true
  | _ => false

/-- What contradicts the life cycle of an identifier. -/
inductive Breach
  | transition (id : HotkeyId) (a b : Phase)
  | danglingSlot (id : HotkeyId)
  deriving DecidableEq, Repr

/-- The message for a breach. -/
def Breach.message : Breach → String
  | transition id a b => s!"Invalid transition for hotkey {id} from {a.name} to {b.name}"
  | danglingSlot id => s!"Hotkey {id} has a handler slot but no live handle"

/-- A breach of the life cycle is an inconsistency of the program that holds the hotkeys. -/
def Breach.error (b : Breach) : Error := .inconsistentState b.message

/-- The phase that follows from what is held for an identifier. -/
def ofParts (id : HotkeyId) (handle slot : Bool) : Except Breach Phase :=
  match handle, slot with
  | false, false => .ok unregistered
  | true, false => .ok registered
  | true, true => .ok bound
  | false, true => .error (.danglingSlot id)

/-- A phase is entered from its neighbour; from both registered phases the way leads back out. -/
def allows : Phase → Phase → Bool
  | unregistered, registered => true
  | registered, bound => true
  | bound, registered => true
  | registered, unregistered => true
  | bound, unregistered => true
  | _, _ => false

/-- Fails for a step between phases that is not allowed. -/
def checkTransition (id : HotkeyId) (a b : Phase) : Except Breach Unit :=
  if a.allows b then .ok () else .error (.transition id a b)

end Phase

end Hotkeys
