import Hotkeys.Session.Step

/-!
# What a session works on and what it tells

The world of a session holds one backend, one bridge, one router and one script interpreter. A step
is answered by a reply, and by the calls of handlers and callbacks that happened meanwhile.
-/

namespace Hotkeys.Session

/-- A value of a script as a host sees it. -/
inductive Shown
  | nil
  | boolean (b : Bool)
  | integer (n : Int)
  | number (x : Float)
  | text (s : String)
  | list (items : List Shown)
  | hotkey (id : HotkeyId) (keys : String)
  /-- A value that a host cannot look into. -/
  | foreign

/-- Why a step has failed. -/
inductive Failure
  | error (e : Error)
  | panicked (text : String)
  | exception (e : Script.Exception)
  | script (p : Script.Problem)
  /-- A mask has a bit of no modifier. -/
  | unknownBits
  | noBridge
  | noRuntime
  | noHandle
  | noListener

/-- What a step answers. -/
inductive Reply
  | done
  | flag (b : Bool)
  | flags (a b : Bool)
  | number (n : Nat)
  | maybeNumber (n : Option Nat)
  | text (s : String)
  | maybeText (s : Option String)
  | info (bound : Bool) (handle : Option HotkeyId) (chord : Option Chord) (registered : Bool)
  | names (backend : String) (hasCallback : Bool)
  | drained (closed : Bool) (events : List Event)
  | event (e : Event)
  | closed
  | armed
  | value (v : Shown)
  | values (vs : List Shown)
  | failed (f : Failure)

mutual

/-- Something that was called while a step was taken. -/
inductive Call
  /-- A handler, with the reports of its steps if it took them. -/
  | handler (name : String) (down : Bool) (steps : Option (List Report))
  | callback (name : String) (e : Event)
  /-- The steps that were armed on a listener. -/
  | hook (steps : List Report)
  /-- A note of a script. -/
  | note (label : String) (value : Shown)

/-- What is reported of a step: its reply and the calls that it has led to. -/
inductive Report
  | report (reply : Reply) (calls : List Call)

end

/-- What is installed in the router. -/
inductive Callback
  | bridge
  /-- A callback that only notes that it was called. -/
  | recorder (name : String) (rule : Rule)
  deriving DecidableEq, Repr

/-- All that the steps of a session act on. -/
structure World where
  interpreter : Script.Interpreter Callee
  router : Router Callback := {}
  env : Conditions := {}
  /-- Whether handlers can be refused by the store and can fail. -/
  fallible : Bool := false
  /-- Handles that have been kept under a name. -/
  kept : Table String Handle := {}
  /-- The calls during the step that is being taken. -/
  calls : List Call := []
  /-- How often handlers of a name have been called. -/
  counts : Table String Nat := {}
  /-- The steps that are armed on listeners. -/
  armed : Table Nat (List Step) := {}

namespace World

/-- A world with a new bridge, which is the callback of the router. -/
def withBridge (backend : Backend) (strict : Bool) (fallible : Bool) (idBase : HotkeyId) : World :=
  { interpreter := .new { bridge := .new backend strict, idBase }
    router := { callback := some .bridge }
    fallible }

/-- The name by which scripts tell notes to the host. -/
def noteName : String := "rec"

/-- A world with a new bridge where scripts can tell notes. -/
def withScripts (backend : Backend) (strict : Bool) (idBase : HotkeyId) : World :=
  let w := withBridge backend strict true idBase
  { w with
    interpreter := w.interpreter.setGlobal noteName (.function (.builtin .note)) }

/-- A world with nothing but a backend and a router. -/
def withBackend (backend : Backend) : World :=
  { interpreter := .new { bridge := { backend, held := false } } }

def runtime (w : World) : Script.Runtime (Script.Callable Callee) := w.interpreter.runtime

def bridge (w : World) : Bridge (Script.Callable Callee) := w.runtime.bridge

def backend (w : World) : Backend := w.bridge.backend

def updateRuntime
    (f : Script.Runtime (Script.Callable Callee) → Script.Runtime (Script.Callable Callee))
    (w : World) : World :=
  { w with interpreter := { w.interpreter with runtime := f w.runtime } }

/-- Changes the bridge of the world. -/
def updateBridge (f : Bridge (Script.Callable Callee) → Bridge (Script.Callable Callee))
    (w : World) : World :=
  w.updateRuntime fun r => { r with bridge := f r.bridge }

def setBridge (w : World) (b : Bridge (Script.Callable Callee)) : World := w.updateBridge fun _ => b

def setBackend (w : World) (backend : Backend) : World :=
  w.updateBridge fun b => { b with backend }

/-- Notes a call for the report of the step. -/
def log (w : World) (c : Call) : World := { w with calls := w.calls ++ [c] }

/-- How often a handler has been called. -/
def countOf (w : World) (name : String) : Nat := (w.counts.get? name).getD 0

/-- Counts one more call of a handler. -/
def count (w : World) (name : String) : World :=
  { w with counts := w.counts.insert name (w.countOf name + 1) }

/-- Keeps a handle under a name, if there is one. -/
def keep (w : World) (name : Option String) (h : Handle) : World :=
  match name with
  | none => w
  | some name => { w with kept := w.kept.insert name h }

/-- Takes away what a listener does when it is woken. -/
def disarm (w : World) (i : Nat) : World := { w with armed := w.armed.erase i }

/-- Sets what a listener does when it is woken. -/
def arm (w : World) (i : Nat) (steps : List Step) : World :=
  { w with armed := w.armed.insert i steps }

end World

end Hotkeys.Session
