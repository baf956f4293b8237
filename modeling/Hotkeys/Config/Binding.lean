import Hotkeys.Chord.Basic
import Hotkeys.Json.Basic
import Hotkeys.Json.Record

/-!
# Configured hotkeys

A configuration lists the hotkeys that are registered at the start. Neither an identifier nor a
combination may occur twice in the list.
-/

namespace Hotkeys

/-! ## Combinations in documents -/

namespace Chord

/-- A combination is written as its text. -/
def json (c : Chord) : Json := .string c.text

/-- A combination is written as its text. -/
def read : Json.Reader Chord :=
  (Json.readText).refine fun s => (parse s).mapError Error.message

end Chord

/-! ## Bindings -/

/-- A hotkey that is registered at the start, with a label for the log if it has one. -/
structure Binding where
  id : HotkeyId
  chord : Chord
  label : Option String := none
  deriving DecidableEq, Repr, Inhabited

namespace Binding

/-- The binding of an identifier to the combination that a text stands for. -/
def ofText (id : HotkeyId) (keys : String) : Except Error Binding :=
  (Chord.parse keys).map fun chord => { id, chord }

/-- The name that the log uses. -/
def displayName (b : Binding) : String :=
  match b.label with
  | some label => s!"{label} ({b.chord.text})"
  | none => b.chord.text

/-- A binding without a label has no field for it. -/
def json (b : Binding) : Json :=
  .object ([("id", .word b.id), ("keys", b.chord.json)] ++
    (b.label.map fun label => ("label", Json.string label)).toList)

/-- The fields of a binding. The identifier and the keys cannot be left out. -/
def record : Json.Record Binding where
  title := "struct HotkeyBinding"
  start := default
  fields := [
    { name := "id", required := true, positional := true,
      read := fun cs => (Json.readWord cs).map fun (id, rest) => (fun b => { b with id }, rest) },
    { name := "keys", required := true, positional := true,
      read := fun cs => (Chord.read cs).map fun (chord, rest) =>
        (fun b => { b with chord }, rest) },
    { name := "label",
      read := fun cs => (Json.readOption Json.readText cs).map fun (label, rest) =>
        (fun b => { b with label }, rest) }]

end Binding

/-- The bindings of a configuration, in the order of their declaration. -/
structure Bindings where
  list : List Binding := []
  deriving DecidableEq, Repr, Inhabited

namespace Bindings

/-- One more binding, behind all others. -/
def add (bs : Bindings) (b : Binding) : Bindings := ⟨bs.list ++ [b]⟩

/-- The first binding of an identifier. -/
def find? (bs : Bindings) (id : HotkeyId) : Option Binding := bs.list.find? fun b => b.id == id

/-- The identifiers of the bindings in the order of their declaration. -/
def ids (bs : Bindings) : List HotkeyId := bs.list.map (·.id)

/-- Checks bindings against those in front of them. -/
def checkFrom (ids : List HotkeyId) (chords : List Chord) : List Binding → Except Error Unit
  | [] => .ok ()
  | b :: rest =>
    if ids.contains b.id then .error (.duplicateIdentifier b.id)
    else if chords.contains b.chord then
      .error (.registration b.chord.text "key combination is bound more than once")
    else checkFrom (b.id :: ids) (b.chord :: chords) rest

/-- No identifier and no combination may occur twice; the first binding that repeats one is
reported. -/
def validate (bs : Bindings) : Except Error Unit := checkFrom [] [] bs.list

/-- The document of a list of bindings. -/
def json (bs : Bindings) : Json := .object [("bindings", .array (bs.list.map Binding.json))]

/-- The one field of a list of bindings, which may be left out. -/
def record : Json.Record Bindings where
  title := "struct HotkeyConfig"
  start := {}
  fields := [
    { name := "bindings",
      read := fun cs => (Json.readList Binding.record.read cs).map fun (list, rest) =>
        (fun _ => { list }, rest) }]

end Bindings

end Hotkeys
