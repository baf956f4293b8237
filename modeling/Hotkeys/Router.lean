import Hotkeys.Listeners

/-!
# The way of an event to the one callback

A router has at most one callback. The callback may do anything, to the router too; the one that
is called is the one that was installed when the event came.
-/

namespace Hotkeys

/-- How a call of foreign code ends. -/
inductive Ending (α : Type)
  | returned (a : α)
  | panicked (text : String)
  deriving DecidableEq, Repr

/-- What hands events of the system on to a callback, if one is installed. -/
structure Router (κ : Type) where
  callback : Option κ := none

namespace Router

variable {κ σ : Type}

/-- Installs a callback, in place of one that is installed. -/
def install (_ : Router κ) (callback : κ) : Router κ := { callback := some callback }

/-- Takes the callback away. -/
def clear (_ : Router κ) : Router κ := {}

/-- Whether a callback is installed. -/
def hasCallback (r : Router κ) : Bool := r.callback.isSome

/-- Hands an event to the callback. An event that nobody takes is not consumed, and neither is one
whose callback panics; the panic goes no further. -/
def dispatch (r : Router κ) (call : κ → Event → σ → Ending Bool × σ) (e : Event) (s : σ) :
    Bool × σ :=
  match r.callback with
  | none => (false, s)
  | some callback =>
    match call callback e s with
    | (.returned consumed, s) => (consumed, s)
    | (.panicked _, s) => (false, s)

end Router

end Hotkeys
