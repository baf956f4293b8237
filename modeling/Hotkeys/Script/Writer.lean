import Hotkeys.Text.Number
import Hotkeys.Text.Utf8

/-!
# Writing scripts

Hosts that make scripts write their values so that a script has the same values when it is read.
-/

namespace Hotkeys.Script.Writer

/-- A byte inside a string, by its number. -/
def escaped (b : UInt8) : List Char := '\\' :: (Text.decimal (b.toNat + 1000)).drop 1

/-- A byte inside a string. -/
def byte (b : UInt8) : List Char :=
  if b < 0x20 || 0x7F ≤ b || b == 0x22 || b == 0x5C then escaped b else [Char.ofNat b.toNat]

/-- A string with the given bytes. -/
def bytes (content : List UInt8) : String :=
  String.ofList ('"' :: (content.flatMap byte ++ ['"']))

/-- A text as a script writes it. -/
def string (s : String) : String := bytes (Text.encode s.toList)

def list (parts : List String) : String := ", ".intercalate parts

/-- A call as a script writes it. -/
def call (f : String) (args : List String) : String := f ++ "(" ++ list args ++ ")"

/-- A table as a script writes it. -/
def table (entries : List String) : String := "\x7b" ++ list entries ++ "\x7d"

/-- An entry of a table with a string as its key. -/
def entry (key value : String) : String := "[" ++ string key ++ "] = " ++ value

end Hotkeys.Script.Writer
