import Hotkeys.Text.Quoted

/-!
# Lines of the log

A line has a level, a target, which is the part of the program that writes it, a message and named
values.
-/

namespace Hotkeys.Log

/-- How much a line of the log matters. -/
inductive Level
  | error
  | warn
  | info
  | debug
  | trace
  deriving DecidableEq, Repr

namespace Level

/-- The name of a level in the log. -/
def name : Level → String
  | error => "ERROR"
  | warn => "WARN"
  | info => "INFO"
  | debug => "DEBUG"
  | trace => "TRACE"

/-- How talkative the level is. -/
def rank : Level → Nat
  | error => 1
  | warn => 2
  | info => 3
  | debug => 4
  | trace => 5

end Level

/-- A line of the log. -/
structure Line where
  level : Level
  target : String := "hotbind"
  message : String
  /-- Names with values, in the order in which they are written. -/
  values : List (String × String) := []
  deriving DecidableEq, Repr

namespace Line

/-- What the log says about a line behind its level and its target. -/
def text (l : Line) : String :=
  " ".intercalate (l.message :: l.values.map fun v => s!"{v.1}={v.2}")

/-- The names of what the line tells; the message has a name too. -/
def fields (l : Line) : List String := "message" :: l.values.map (·.1)

end Line

/-- A value that may be missing. -/
def optional : Option String → String
  | some s => s!"Some({Text.quoted s})"
  | none => "None"

end Hotkeys.Log
