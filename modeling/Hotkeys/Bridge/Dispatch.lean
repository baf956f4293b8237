import Hotkeys.Bridge.Basic
import Hotkeys.Router

/-!
# Dispatching an event

An event for a registered identifier is first announced to the listeners and then handed to the
handler that is bound to the identifier. Both may run foreign code, and that code may use the
bridge again, so a dispatch is a function on whatever state surrounds the bridge.
-/

namespace Hotkeys

/-- How a bridge lives inside a larger state `σ`, and what foreign code does to that state. -/
structure Stage (σ H : Type) where
  bridge : σ → Bridge H
  update : (Bridge H → Bridge H) → σ → σ
  /-- A listener notices that an event has been queued for it, or that no more will come. -/
  notice : Nat → σ → σ
  /-- Calls a handler; the flag tells whether it succeeds. -/
  call : H → Event → σ → Ending Bool × σ

namespace Stage

variable {σ H : Type}

/-- Offers an event to one listener, which notices it if it is queued. -/
def offer (t : Stage σ H) (e : Event) (s : σ) (i : Nat) : σ :=
  let queued := ((t.bridge s).listeners.offer i e).1
  let s := t.update (fun b => { b with listeners := (b.listeners.offer i e).2 }) s
  if queued then t.notice i s else s

/-- Offers an event to all listeners, one after the other. -/
def announce (t : Stage σ H) (e : Event) (s : σ) : σ :=
  (t.bridge s).listeners.senders.foldl (t.offer e) s

/-- Dispatches an event to the handler of its identifier. The event is consumed if a handler is
bound and succeeds; a panic of the handler goes on to the caller. -/
def dispatch (t : Stage σ H) (e : Event) (s : σ) : Ending Bool × σ :=
  match (t.bridge s).enter e.id with
  | none => (.returned false, s)
  | some b =>
    let s := t.announce e (t.update (fun _ => b) s)
    let (ending, s) : Ending Bool × σ :=
      match (t.bridge s).current? with
      | none => (.returned false, s)
      | some handler => t.call handler e s
    (ending, t.update Bridge.leave s)

/-- Ends the life of a bridge that nobody holds: it gives up all registrations and leaves its
listeners, in their order. -/
def close (t : Stage σ H) (env : Conditions) (s : σ) : σ :=
  let s := t.update (fun b => (b.shutdown env).2) s
  (t.bridge s).listeners.senders.foldl (fun s i =>
    t.notice i (t.update (fun b => { b with listeners := b.listeners.disconnect i }) s)) s

/-- Closes the bridge if its owner has dropped it and no dispatch is under way. -/
def settle (t : Stage σ H) (env : Conditions) (s : σ) : σ :=
  if (t.bridge s).isAlive then s else t.close env s

/-- Dispatches an event, and lets the bridge go if that was all that held it. -/
def dispatchHeld (t : Stage σ H) (env : σ → Conditions) (e : Event) (s : σ) : Ending Bool × σ :=
  let (ending, s) := t.dispatch e s
  (ending, t.settle (env s) s)

/-- The callback that a bridge installs: an event is not consumed once the bridge is gone. -/
def answer (t : Stage σ H) (env : σ → Conditions) (e : Event) (s : σ) : Ending Bool × σ :=
  if (t.bridge s).isAlive then t.dispatchHeld env e s else (.returned false, s)

end Stage

end Hotkeys
