/-!
# Platforms
-/

namespace Hotkeys

/-- The systems that the program can tell apart. -/
inductive Platform
  | windows
  | macos
  | linux
  | unknown
  deriving DecidableEq, Repr

namespace Platform

def all : List Platform := [windows, macos, linux, unknown]

/-- The platform that this program runs on. -/
def current : Platform := linux

/-- The name of a platform in documents. -/
def key : Platform → String
  | windows => "windows"
  | macos => "macos"
  | linux => "linux"
  | unknown => "unknown"

/-- The name of a platform for people. -/
def title : Platform → String
  | windows => "Windows"
  | macos => "macOS"
  | linux => "Linux"
  | unknown => "Unknown"

/-- Whether events arrive only while the main thread runs a loop of the system. -/
def needsEventLoop : Platform → Bool
  | windows | macos => true
  | _ => false

end Platform

end Hotkeys
