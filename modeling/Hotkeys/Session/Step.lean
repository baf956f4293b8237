import Hotkeys.Files.Basic
import Hotkeys.Script.Chunk

/-!
# Sessions, step by step

A session is a list of steps that a host takes with a backend, a bridge and the scripts on top of
it. A handler is itself a list of steps, which it takes whenever it is called, so steps hold
handlers and handlers hold steps.
-/

namespace Hotkeys.Session

/-- A combination as a step gives it. -/
inductive Keys
  | text (s : String)
  | code (key : KeyCode) (bits : UInt32)
  deriving DecidableEq, Repr

/-- A handler whose steps have type `σ`. -/
structure Handler (σ : Type) where
  name : String
  steps : List σ := []
  /-- The steps are taken on so many calls of a handler of this name. -/
  limit : Nat := 1
  /-- What the handler fails with when it has taken its steps. -/
  failure : Option String := none
  /-- What the handler panics with when it has taken its steps. -/
  panic : Option String := none
  /-- Why a store that can refuse a handler refuses this one. -/
  refusal : Option String := none

/-- What a callback that is no bridge answers. -/
inductive Rule
  | always (b : Bool)
  /-- Whether the key went down. -/
  | down
  /-- Whether the identifier is odd. -/
  | odd
  | panic
  deriving DecidableEq, Repr

/-- Steps that need no bridge. -/
inductive HostStep
  /-- The system sends an event, if it has a registration for the identifier. -/
  | fire (e : Event)
  | press (id : HotkeyId)
  /-- An event arrives that was under way, whether or not there still is a registration. -/
  | inFlight (e : Event)
  | fireTimes (id : HotkeyId) (n : Nat)
  | liveCount
  | osBound (keys : Keys)
  | backendName
  /-- Sets what registrations and releases fail with from now on. -/
  | fault (registration : Option String) (release : HotkeyId → Option String)
  | setCallback (name : String) (rule : Rule)
  | clearCallback
  | hasCallback

/-- Steps with the bridge. -/
inductive BridgeStep (σ : Type)
  | register (id : HotkeyId) (keys : Keys) (name : Option String)
  | registerAndBind (id : HotkeyId) (keys : Keys) (h : Handler σ) (name : Option String)
  | bind (id : HotkeyId) (h : Handler σ)
  | unbind (id : HotkeyId)
  | unregister (id : HotkeyId)
  | unregisterHandle (name : String)
  | dispatch (e : Event)
  | phase (id : HotkeyId)
  | info (id : HotkeyId)
  | handle (id : HotkeyId) (name : Option String)
  | same (a b : String)
  | nextFree (base : HotkeyId)
  | slots
  | strict
  | names
  | subscribe
  | unsubscribe (i : Nat)
  | cleanup
  | drain (i : Nat)
  /-- Takes an event of a listener or, if none waits, has steps taken when the next one comes. -/
  | arm (i : Nat) (steps : List σ)
  | install
  | shutdown
  | drop

/-- Steps with the script runtime. -/
inductive ScriptStep (σ : Type)
  | call (f : Script.Function) (args : List (Script.Argument (Handler σ))) (name : Option String)
  | method (name : String) (m : Script.Method)
  | equal (a b : Script.Argument (Handler σ))
  | text (name : String)
  | forget (name : String)
  | copy (name source : String)
  | collect
  | shutdown
  | dropRuntime
  | register (id : HotkeyId) (keys : Keys)
  | unregister (id : HotkeyId)
  | unbind (id : HotkeyId)
  | phase (id : HotkeyId)
  | key (id : HotkeyId)
  | run (name text : String)
  /-- Runs a script file, if there is one. -/
  | load (path : String) (file : Option Files.Content)

/-- What a step does, be it for the host, the bridge or the scripts. -/
inductive Action (σ : Type)
  | host (a : HostStep)
  | bridge (a : BridgeStep σ)
  | script (a : ScriptStep σ)

/-- A step, which may be taken on a thread of its own. -/
inductive Step
  | step (offThread : Bool) (action : Action Step)

/-- What a host has for scripts and bridges to call. -/
abbrev Callee := Handler Step

end Hotkeys.Session
