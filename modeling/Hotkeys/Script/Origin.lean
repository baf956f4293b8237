import Hotkeys.Text.Utf8

/-!
# Where scripts come from

Messages about a script tell the place by the origin of the script and a line.
-/

namespace Hotkeys.Script

/-- Where the text of a script comes from. -/
inductive Origin
  /-- A text that a host has given a name. -/
  | chunk (name : String)
  | file (path : String)
  deriving DecidableEq, Repr

namespace Origin

/-- The most bytes of a path that messages show. -/
def longestPath : Nat := 59

/-- The most bytes that are kept of a longer path. -/
def longestEnd : Nat := 56

/-- The name of the text or the path of the file. -/
def name : Origin → String
  | chunk name => name
  | file path => path

/-- The origin as messages show it. Of a long path only the last bytes are shown, even where they
begin inside a character. -/
def title : Origin → String
  | chunk name => s!"[string \"{name}\"]"
  | file path =>
    let bytes := Text.encode path.toList
    if bytes.length ≤ longestPath then path
    else "..." ++ Text.mended (bytes.drop (bytes.length - longestEnd))

/-- A message about a line. -/
def complaint (o : Origin) (line : Nat) (text : String) : String := s!"{o.title}:{line}: {text}"

end Origin

end Hotkeys.Script
