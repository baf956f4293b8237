/-!
# What can go wrong with a hotkey

Each constructor of `Error` is one cause; its wording is in `Error.message` alone.
-/

namespace Hotkeys

/-- The identifier that a caller chooses for a hotkey. -/
abbrev HotkeyId := UInt32

/-- What the operations of the library fail with. -/
inductive Error
  /-- No key has this name. -/
  | invalidKey (name : String)
  /-- No modifier has this name. -/
  | invalidModifier (name : String)
  /-- The system refused to register the combination. -/
  | registration (keys reason : String)
  /-- The system refused to release the hotkey. -/
  | unregistration (id : HotkeyId) (reason : String)
  /-- The identifier is registered already. -/
  | duplicateIdentifier (id : HotkeyId)
  /-- The identifier is not registered. -/
  | unknownIdentifier (id : HotkeyId)
  /-- The identifier has a handler already. -/
  | alreadyBound (id : HotkeyId)
  /-- What was to be released had been released before. -/
  | doubleRelease (id : HotkeyId)
  /-- A handler slot and a handle do not belong together. -/
  | inconsistentState (detail : String)
  /-- The handler could not be stored. -/
  | slotAllocation (id : HotkeyId) (reason : String)
  /-- The backend cannot be used. -/
  | backend (reason : String)
  deriving DecidableEq, Repr

namespace Error

/-- The text of an error. -/
def message : Error → String
  | invalidKey name => s!"Invalid key: {name}"
  | invalidModifier name => s!"Invalid modifier: {name}"
  | registration keys reason => s!"Failed to register hotkey '{keys}': {reason}"
  | unregistration id reason => s!"Failed to unregister hotkey {id}: {reason}"
  | duplicateIdentifier id => s!"Hotkey identifier {id} is already registered"
  | unknownIdentifier id => s!"Hotkey identifier {id} is not registered"
  | alreadyBound id => s!"Hotkey identifier {id} already has a bound handler"
  | doubleRelease id => s!"Hotkey handle {id} was already released"
  | inconsistentState detail => s!"Inconsistent hotkey state: {detail}"
  | slotAllocation id reason => s!"Failed to store handler for hotkey {id}: {reason}"
  | backend reason => s!"Hotkey backend error: {reason}"

/-- Mistakes of the calling program, which a strict bridge does not survive. -/
def isProgrammingError : Error → Bool
  | doubleRelease _ | inconsistentState _ => true
  | _ => false

end Error

end Hotkeys
