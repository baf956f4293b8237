import Hotkeys.Error
import Hotkeys.Key
import Hotkeys.Modifier
import Hotkeys.Text.Number

/-!
# Key combinations

A chord is one key together with the modifiers that are held while it is pressed. It is written as
the names of its modifiers and the name of its key, joined by plus signs; a key without a name is
written as its code in hexadecimal. Reading is more liberal: it takes any name of a modifier, in any
order, any case and any number of times, and blanks around each part.
-/

namespace Hotkeys

/-- A key combination. -/
structure Chord where
  key : KeyCode
  modifiers : ModifierSet := .empty
  deriving DecidableEq, Repr, Inhabited

/-- A key by name, or by its code after `0x`. -/
def KeyCode.read? (cs : List Char) : Option KeyCode :=
  match Text.trim cs with
  | '0' :: 'x' :: hex => Text.word32OfHex? hex
  | '0' :: 'X' :: hex => Text.word32OfHex? hex
  | word => KeyCode.named? word

namespace Chord

/-- Whether the key has a code that a key can have. -/
def isValid (c : Chord) : Bool := c.key ≤ KeyCode.max

/-- The canonical text of a key: its name, or else its code in hexadecimal. -/
def keyText (key : KeyCode) : List Char :=
  match KeyCode.name? key with
  | some name => name.toList
  | none => '0' :: 'x' :: Text.hexPadded key.toNat

/-- The canonical text of a chord. -/
def chars (c : Chord) : List Char :=
  c.modifiers.toList.flatMap (fun m => m.name.toList ++ ['+']) ++ keyText c.key

/-- The canonical text of a chord as a string. -/
def text (c : Chord) : String := String.ofList c.chars

/-- Cuts a text at the last plus sign that has something other than blanks after it. The key `pad+`
ends in a plus sign that has nothing after it, which is why such a sign is passed over. -/
def cutKey : List Char → Option (List Char × List Char)
  | [] => none
  | c :: rest =>
    match cutKey rest with
    | some (front, key) => some (c :: front, key)
    | none => if c = '+' ∧ Text.trim rest ≠ [] then some ([], Text.trim rest) else none

/-- Adds one modifier of a text to those that stand to its left. -/
def addModifier (whole : String) (held : ModifierSet) (piece : List Char) :
    Except Error ModifierSet :=
  let token := Text.trim piece
  if token.isEmpty then .error (.invalidKey whole)
  else match Modifier.named? token with
    | some m => .ok (held.insert m)
    | none =>
      if (KeyCode.read? token).isSome then .error (.invalidKey whole)
      else .error (.invalidModifier (String.ofList token))

/-- Reads a chord. The piece after the last separating plus sign is the key, and all pieces before
it must be modifiers. -/
def parse (s : String) : Except Error Chord :=
  let cs := Text.trim s.toList
  let whole := String.ofList cs
  let (front, key) := match cutKey cs with
    | some (front, key) => (some front, key)
    | none => (none, cs)
  match KeyCode.read? key with
  | none => .error (.invalidKey whole)
  | some code =>
    match front with
    | none => .ok { key := code }
    | some front => do
      let held ← (front.splitOn '+').foldlM (addModifier whole) ModifierSet.empty
      return { key := code, modifiers := held }

/-- Puts a chord together from the name of its key and names of modifiers. -/
def ofParts (key : String) (modifiers : List String) : Except Error Chord :=
  match KeyCode.read? key.toList with
  | none => .error (.invalidKey key)
  | some code => do
    let held ← modifiers.foldlM (fun held name =>
      match Modifier.named? name.toList with
      | some m => .ok (held.insert m)
      | none => .error (.invalidModifier name)) ModifierSet.empty
    return { key := code, modifiers := held }

end Chord

end Hotkeys
