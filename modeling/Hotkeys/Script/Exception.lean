import Hotkeys.Error
import Hotkeys.Files.Basic

/-!
# Errors that scripts raise

An exception is raised inside a script. A problem is what the host is told about a script that has
failed, be it by an exception or before anything of it was run.
-/

namespace Hotkeys.Script

/-- What an argument could not be turned into, and why. -/
inductive Wanted
  | text
  | function
  /-- An object of the library. -/
  | object
  /-- A string that would have to be text. -/
  | validText (fault : Text.Utf8Fault)
  /-- A string that would have to be text with names in it. -/
  | validNames (fault : Text.Utf8Fault)
  deriving DecidableEq, Repr

/-- What goes wrong inside a script. -/
inductive Exception
  /-- Raised with a message. -/
  | runtime (message : String)
  /-- A value of type `found` stands where something else is wanted; `position` is the argument,
  unless the value is part of an argument. -/
  | conversion (position : Option Nat) (found : String) (wanted : Wanted)
  | hotkey (e : Error)
  /-- No identifier from the given one on is free. -/
  | idsExhausted (base : HotkeyId)
  /-- The script does not follow the grammar. -/
  | malformed (message : String)
  deriving DecidableEq, Repr

/-- How a message calls what an argument should be. -/
def Wanted.message : Wanted → String
  | text => "String (expected string or number)"
  | function => "function"
  | object => "userdata"
  | validText fault => s!"String ({fault.message})"
  | validNames fault => s!"&str ({fault.message})"

/-- The message for a range of identifiers that is used up. -/
def idsExhaustedMessage (base : HotkeyId) : String :=
  s!"No free script hotkey identifier at or above {base}"

/-- The message of an exception. -/
def Exception.message : Exception → String
  | runtime message => s!"runtime error: {message}"
  | conversion none found wanted => s!"error converting Lua {found} to {wanted.message}"
  | conversion (some n) found wanted =>
    s!"bad argument #{n}: error converting Lua {found} to {wanted.message}"
  | hotkey e => e.message
  | idsExhausted base => idsExhaustedMessage base
  | malformed message => s!"syntax error: {message}"

/-! ## What a host is told -/

/-- Why a script has failed, as its host sees it. -/
inductive Problem
  /-- An exception; one that has gone through calls of a script is traced. -/
  | exception (e : Exception) (traced : Bool := false)
  | unreadable (path : String) (fault : Files.Fault)
  | hotkey (e : Error)
  | idsExhausted (base : HotkeyId)
  deriving DecidableEq, Repr

/-- The text of an exception. The calls that it has gone through are not told. -/
def Exception.text (e : Exception) (traced : Bool) : String :=
  if traced then e.message ++ "\nstack traceback:\n\t[C]: in ?" else e.message

/-- The message of a problem. -/
def Problem.message : Problem → String
  | exception e traced => s!"Lua error: {e.text traced}"
  | unreadable path fault => s!"Failed to read script {path}: {fault.message}"
  | hotkey e => s!"Hotkey error: {e.message}"
  | idsExhausted base => idsExhaustedMessage base

end Hotkeys.Script
