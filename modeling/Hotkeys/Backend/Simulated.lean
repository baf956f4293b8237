import Hotkeys.Chord.Basic

/-!
# The simulated backend

An operating system that is played inside the program. A combination can be registered once at a
time, and every registration gets a number that no other registration has had before.
-/

namespace Hotkeys.Backend

/-- A registration that is live. -/
structure Grant where
  number : Nat
  id : HotkeyId
  chord : Chord
  deriving DecidableEq, Repr

/-- The live registrations of the simulated backend and the number that the next one gets. -/
structure Simulated where
  /-- The number of the next registration, one up for each. It does not wrap around, and a word of
  64 bits does not either while fewer than `2 ^ 64` registrations have been made. -/
  next : Nat := 1
  live : List Grant := []

namespace Simulated

/-- Whether an event for the identifier can come from the system. -/
def hears (s : Simulated) (id : HotkeyId) : Bool := s.live.any fun g => g.id == id

/-- Whether the combination is taken. -/
def isBound (s : Simulated) (chord : Chord) : Bool := s.live.any fun g => g.chord == chord

/-- The number of live registrations. -/
def liveCount (s : Simulated) : Nat := s.live.length

/-- The code of a key in hexadecimal. -/
def keyCodeText (key : KeyCode) : String :=
  String.ofList ('0' :: 'x' :: Text.hexPadded key.toNat)

/-- Registers a combination for an identifier; the result is the number of the registration. -/
def register (s : Simulated) (id : HotkeyId) (chord : Chord) : Except Error (Nat × Simulated) :=
  if ¬ chord.isValid then
    .error (.registration chord.text s!"keycode {keyCodeText chord.key} is out of range")
  else if s.isBound chord then
    .error (.registration chord.text "key combination is already bound")
  else .ok (s.next, { next := s.next + 1, live := ⟨s.next, id, chord⟩ :: s.live })

/-- Gives a registration up. The identifier is only for the message. -/
def release (s : Simulated) (id : HotkeyId) (number : Nat) : Except Error Simulated :=
  if s.live.any fun g => g.number == number then
    .ok { s with live := s.live.filter fun g => g.number != number }
  else .error (.unregistration id "handle is not live")

end Simulated

end Hotkeys.Backend
