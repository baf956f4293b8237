import Hotkeys.Chord.Basic
import Hotkeys.Table

/-!
# The portable backend

An operating system that knows a registration by its combination alone. Registering a combination
a second time replaces the identifier that it stands for. Only the thread that created the backend
may use it.
-/

namespace Hotkeys.Backend

/-- The registrations of the portable backend. The system behind it takes every combination whose
key has a code, also one that is registered already: it never refuses a registration. Only its
refusals of releases are told from outside. -/
structure Portable where
  /-- The identifiers that the registered combinations stand for. -/
  entries : Table Chord HotkeyId := {}

namespace Portable

/-- The identifier that events of a combination are for. -/
def get? (p : Portable) (chord : Chord) : Option HotkeyId := p.entries.get? chord

/-- The keys that the system has a code for are those that have a name. -/
def supports (key : KeyCode) : Bool := (KeyCode.name? key).isSome

/-- Fails on any thread but the one that created the backend. -/
def checkThread (onOwnerThread : Bool) : Except Error Unit :=
  if onOwnerThread then .ok ()
  else .error (.backend
    "global-hotkey manager must be used from the thread that created it")

/-- Enters a combination for an identifier, in place of one that it stood for before. Apart from the
thread, only a key without a code makes it fail. -/
def register (p : Portable) (onOwnerThread : Bool) (id : HotkeyId) (chord : Chord) :
    Except Error Portable := do
  checkThread onOwnerThread
  if supports chord.key then return { entries := p.entries.insert chord id }
  else throw (.registration chord.text "key is not supported by the global-hotkey backend")

/-- Gives a combination up. The system may refuse with a reason; then the entry stays and the
release can be tried again. -/
def release (p : Portable) (onOwnerThread : Bool) (refusal : Option String) (id : HotkeyId)
    (chord : Chord) : Except Error Portable := do
  checkThread onOwnerThread
  if (p.get? chord).isNone then throw (.unregistration id "handle is not live")
  match refusal with
  | some reason => throw (.unregistration id reason)
  | none => return { entries := p.entries.erase chord }

end Portable

end Hotkeys.Backend
