import Hotkeys.Json.Skip

/-!
# Reading records

A record is written as an object, with its fields in any order and fields of other names among
them, or as an array of its values in the order of the fields. Reading starts from a record that
has every field at its default and sets one field after the other.
-/

namespace Hotkeys.Json

/-- A field of a record of type `α`. -/
structure Field (α : Type) where
  name : String
  read : Reader (α → α)
  /-- The field must be there when the record is written as an object. -/
  required : Bool := false
  /-- The field must be reached when the record is written as an array. -/
  positional : Bool := false

/-- A kind of record: what messages call it, its fields in order, and where reading starts. -/
structure Record (α : Type) where
  title : String
  fields : List (Field α)
  start : α

namespace Record

variable {α : Type}

/-- Reads the value of a field whose key has just been read. A field that is met again is refused
before its value is looked at. -/
def readField (kind : Record α) (name : String) (seen : List String) (a : α) (cs : List Char) :
    Except Problem ((α × List String) × List Char) :=
  match kind.fields.find? fun f => f.name == name with
  | none => do
    let rest ← readColon cs
    return ((a, seen), ← skip rest)
  | some f =>
    if seen.contains name then .error (.misfit (.duplicateField name))
    else do
      let (set, rest) ← f.read (← readColon cs)
      return ((set a, name :: seen), rest)

/-- The record, provided that every required field has been seen. -/
def complete (kind : Record α) (seen : List String) (a : α) : Except Problem α :=
  match kind.fields.find? fun f => f.required && !seen.contains f.name with
  | some f => .error (.misfit (.missingField f.name))
  | none => .ok a

/-- Reads the fields of an object up to its closing brace. `seen` are the names of the fields that
have been read. -/
def readFields (kind : Record α) : Nat → Bool → List String → α → Reader α
  | 0, _, _, _ => fun _ => .error (.ended .object)
  | fuel + 1, first, seen, a => fun cs =>
    let field (cs : List Char) : Except Problem (α × List Char) := do
      let (name, rest) ← readString cs
      let ((a, seen), rest) ← kind.readField name seen a rest
      kind.readFields fuel false seen a rest
    match dropLayout cs with
    | [] => .error (.ended .object)
    | '}' :: rest => (kind.complete seen a).map fun a => (a, rest)
    | c :: rest =>
      if first then
        if c = '"' then field rest else .error (.malformed .keyMustBeString)
      else if c = ',' then
        match dropLayout rest with
        | '"' :: rest => field rest
        | '}' :: _ => .error (.malformed .trailingComma)
        | [] => .error (.ended .value)
        | _ => .error (.malformed .keyMustBeString)
      else .error (.malformed .expectedObjectCommaOrEnd)

/-- Closes an array whose values have all been read. -/
def closeArray (cs : List Char) : Except Problem (List Char) :=
  match dropLayout cs with
  | ']' :: rest => .ok rest
  | ',' :: rest =>
    match dropLayout rest with
    | ']' :: _ => .error (.malformed .trailingComma)
    | _ => .error (.malformed .trailingCharacters)
  | [] => .error (.ended .list)
  | _ => .error (.malformed .trailingCharacters)

/-- The length that a complete array of the record has, as a message puts it. -/
def arrayTitle (kind : Record α) : String :=
  s!"{kind.title} with {kind.fields.length} elements"

/-- Reads the remaining fields from an array; `index` of them have been passed. -/
def readValues (kind : Record α) : List (Field α) → Nat → Bool → α → Reader α
  | [], _, _, a => fun cs => .ok (a, cs)
  | f :: more, index, first, a => fun cs => do
    match ← nextElement first cs with
    | (true, rest) =>
      let (set, rest) ← f.read rest
      kind.readValues more (index + 1) false (set a) rest
    | (false, rest) =>
      if f.positional then .error (.misfit (.length index kind.arrayTitle))
      else kind.readValues more (index + 1) first a rest

/-- Reads a record in either form. -/
def read (kind : Record α) : Reader α := fun cs =>
  match dropLayout cs with
  | '[' :: rest => do
    let (a, rest) ← kind.readValues kind.fields 0 true kind.start rest
    return (a, ← closeArray rest)
  | '{' :: rest => kind.readFields (rest.length + 1) true [] kind.start rest
  | _ => .error (unexpected kind.title cs)

end Record

end Hotkeys.Json
