import Hotkeys.Script.Value

/-!
# What tables hold

A table has a value for each of some keys. The values for the keys 1, 2, 3 and so on, as far as
there is one for each, stand in a row; all others have their keys beside them, in the order in which
they came. A key whose value is taken away stays there with `nil`, so that what follows it can be
found.
-/

namespace Hotkeys.Script

/-- The fields of a table: those with the keys from one on in a row, and all others. -/
structure Fields (φ : Type) where
  row : Array (Value φ) := #[]
  others : List (Value φ × Value φ) := []

namespace Fields

variable {φ : Type} (same : Value φ → Value φ → Bool)

/-- A number that is an integer is the same key as the integer. -/
def keyOf : Value φ → Value φ
  | .number x =>
    let n := x.toInt64.toInt
    if Value.sameNumber n x then .integer n else .number x
  | k => k

/-- The place of a key in the row, if it has one. -/
def index? (f : Fields φ) : Value φ → Option Nat
  | .integer n => if 1 ≤ n ∧ n ≤ f.row.size then some (n.toNat - 1) else none
  | _ => none

/-- The value of a key, `nil` if there is none. -/
def get (f : Fields φ) (k : Value φ) : Value φ :=
  let k := keyOf k
  match f.index? k with
  | some i => f.row.getD i .nil
  | none => ((f.others.find? fun e => same e.1 k).map (·.2)).getD .nil

/-- The items from the beginning up to the first key that has no value. -/
def items (f : Fields φ) : List (Value φ) := f.row.toList

/-- The length of a table, which is that of its row. -/
def length (f : Fields φ) : Nat := f.row.size

/-- Moves what follows the row into it. -/
def absorb : Nat → Fields φ → Fields φ
  | 0, f => f
  | fuel + 1, f =>
    let next : Value φ := .integer (f.row.size + 1)
    match f.others.find? fun e => same e.1 next && !e.2.isNil with
    | none => f
    | some e =>
      absorb fuel
        { row := f.row.push e.2, others := f.others.filter fun e => !same e.1 next }

/-- Takes the value in a place of the row away. What stands behind it is no part of the row then. -/
def split (f : Fields φ) (i : Nat) : Fields φ :=
  let behind := (f.row.toList.drop i).mapIdx fun j v =>
    ((.integer ((i + 1 + j : Nat) : Int) : Value φ), if j = 0 then .nil else v)
  { row := f.row.take i, others := behind ++ f.others }

/-- The fields with a value for a key; `nil` takes the value away. -/
def set (f : Fields φ) (k v : Value φ) : Fields φ :=
  let k := keyOf k
  match f.index? k with
  | some i => if v.isNil then f.split i else { f with row := f.row.setIfInBounds i v }
  | none =>
    if !v.isNil && same k (.integer (f.row.size + 1)) then
      absorb same f.others.length
        { row := f.row.push v, others := f.others.filter fun e => !same e.1 k }
    else if f.others.any fun e => same e.1 k then
      { f with others := f.others.map fun e => if same e.1 k then (k, v) else e }
    else if v.isNil then f
    else { f with others := f.others ++ [(k, v)] }

/-- All keys with their values, the row first. -/
def entries (f : Fields φ) : List (Value φ × Value φ) :=
  (f.row.toList.mapIdx fun i v => ((.integer ((i + 1 : Nat) : Int) : Value φ), v)) ++ f.others

/-- The entry behind that of a key, or the first one behind `nil`. There is no answer for a key that
the table has never had. -/
def next? (f : Fields φ) (k : Value φ) : Option (Option (Value φ × Value φ)) :=
  let first (es : List (Value φ × Value φ)) := es.find? fun e => !e.2.isNil
  if k.isNil then some (first f.entries)
  else
    match f.entries.dropWhile fun e => !same e.1 (keyOf k) with
    | [] => none
    | _ :: rest => some (first rest)

end Fields

end Hotkeys.Script
