import Hotkeys.Error

/-!
# Kinds of backends

Which backend is to be used is chosen by name. `auto` leaves the choice to the system: it is the
portable backend, as this program runs on systems other than macOS.
-/

namespace Hotkeys.Backend

/-- The backend that a configuration asks for. -/
inductive Kind
  | auto
  | carbon
  | portable
  | simulated
  deriving DecidableEq, Repr, Inhabited

namespace Kind

/-- The word for the kind in configurations. -/
def name : Kind → String
  | auto => "auto"
  | carbon => "carbon"
  | portable => "portable"
  | simulated => "simulated"

/-- The name as the log writes it. -/
def title : Kind → String
  | auto => "Auto"
  | carbon => "Carbon"
  | portable => "Portable"
  | simulated => "Simulated"

/-- All kinds, in the order in which messages list them. -/
def all : List Kind := [auto, carbon, portable, simulated]

/-- The kind with `auto` resolved. -/
def resolve : Kind → Kind
  | auto => portable
  | k => k

/-- Whether a backend of this kind can be created here. -/
def check (k : Kind) : Except Error Kind :=
  match k.resolve with
  | carbon => .error (.backend "Carbon backend is only available on macOS")
  | k => .ok k

end Kind

end Hotkeys.Backend
