import Hotkeys.Script.Runtime

/-!
# The hotkey library of scripts

The functions and methods that scripts call. The arguments of a function are converted from left to
right before anything else happens; missing arguments are `nil`.
-/

namespace Hotkeys.Script

/-- The functions of the library. -/
inductive Function
  /-- Makes a hotkey object. -/
  | new
  /-- Makes a hotkey object and enables it; an object that cannot be enabled is gone at once. -/
  | bind
  /-- The code of a key by name. -/
  | keycode
  /-- The identifiers that are registered. -/
  | ids
  deriving DecidableEq, Repr

/-- The methods of hotkey objects. -/
inductive Method
  | enable
  | disable
  | enabled
  | id
  | key
  deriving DecidableEq, Repr

/-- All functions of the library. -/
def Function.all : List Function := [.new, .bind, .keycode, .ids]

def Function.name : Function → String
  | new => "new"
  | bind => "bind"
  | keycode => "keycode"
  | ids => "ids"

/-- All methods of hotkey objects. -/
def Method.all : List Method := [.enable, .disable, .enabled, .id, .key]

def Method.name : Method → String
  | enable => "enable"
  | disable => "disable"
  | enabled => "enabled"
  | id => "id"
  | key => "key"

variable {φ : Type}

/-- Converts a value to text. Numbers are written out; `position` is only for the error. -/
def Value.toText (position : Option Nat) : Value φ → Except Exception String
  | .string s => .ok s
  | .integer n => .ok (Value.integerText n)
  | .number x => .ok (Value.numberText x)
  | .bytes fault _ => .error (.conversion position "string" (.validText fault))
  | v => .error (.conversion position v.typeName .text)

/-- The function that an argument is, if it is one. -/
def Value.toFunction (position : Nat) : Value φ → Except Exception φ
  | .function f => .ok f
  | v => .error (.conversion (some position) v.typeName .function)

/-- The names in a text with plus signs between them; empty names do not count. -/
def splitModifiers (s : String) : List String :=
  (((s.toList.splitOn '+').map Text.trim).filter fun piece => !piece.isEmpty).map String.ofList

/-- The names of modifiers that an argument holds: none, a text with plus signs, or the sequence in
a table. What tables hold is told by `items`. -/
def modifierNames (items : Nat → List (Value φ)) : Value φ → Except Exception (List String)
  | .nil => .ok []
  | .string s => .ok (splitModifiers s)
  | .bytes fault _ => .error (.conversion none "string" (.validNames fault))
  | .table n => (Value.sequence (items n)).mapM (Value.toText none)
  | v => .error (.runtime s!"modifiers must be a string or a table, got {v.typeName}")

/-- What a function of the library returns: a value, or the items of a new table. -/
inductive Answer (φ : Type)
  | value (v : Value φ)
  | sequence (items : List (Value φ))

/-- The argument at a position, counted from one. -/
def argument (args : List (Value φ)) (position : Nat) : Value φ := args.getD (position - 1) .nil

/-- The combination and the handler that the arguments of a call name: a key, modifiers and a
function. -/
def requested (items : Nat → List (Value φ)) (args : List (Value φ)) :
    Except Exception (Chord × φ) := do
  let key ← (argument args 1).toText (some 1)
  let handler ← (argument args 3).toFunction 3
  let names ← modifierNames items (argument args 2)
  match Chord.ofParts key names with
  | .error e => throw (.hotkey e)
  | .ok chord => return (chord, handler)

namespace Runtime

/-- Makes a hotkey object from the arguments of a call. -/
def createFrom (r : Runtime φ) (items : Nat → List (Value φ)) (args : List (Value φ)) :
    Except Exception (Nat × Runtime φ) := do
  let (chord, handler) ← requested items args
  r.create chord handler

/-- Calls a function of the library; `items` tells what tables hold. -/
def call (r : Runtime φ) (items : Nat → List (Value φ)) (env : Conditions) (f : Function)
    (args : List (Value φ)) : Except Exception (Answer φ) × Runtime φ :=
  match f with
  | .new =>
    match r.createFrom items args with
    | .error e => (.error e, r)
    | .ok (n, r) => (.ok (.value (.hotkey n)), r)
  | .bind =>
    match r.createFrom items args with
    | .error e => (.error e, r)
    | .ok (n, r) =>
      match r.enable env n with
      | (.ok (), r) => (.ok (.value (.hotkey n)), r)
      | (.error message, r) => (.error (.runtime message), r.dropObject env n)
  | .keycode =>
    (((argument args 1).toText (some 1)).map fun name =>
      .value ((KeyCode.named? name.toList).elim .nil fun code => .integer code.toNat), r)
  | .ids => (.ok (.sequence (r.ids.map fun id => .integer id.toNat)), r)

/-- Calls a method of a hotkey object; the result is the list of what the method returns. -/
def callMethod (r : Runtime φ) (env : Conditions) (m : Method) (n : Nat) :
    List (Value φ) × Runtime φ :=
  match m with
  | .enable =>
    match r.enable env n with
    | (.ok (), r) => ([.boolean true, .nil], r)
    | (.error message, r) => ([.nil, .string message], r)
  | .disable => ([], r.disable env n)
  | .enabled => ([.boolean ((r.object? n).any r.isEnabled)], r)
  | .id => (((r.object? n).map fun o => .integer o.id.toNat).toList, r)
  | .key => (((r.object? n).map fun o => .string o.chord.text).toList, r)

/-- A hotkey object as text. -/
def objectText (r : Runtime φ) (o : HotkeyObject φ) : String :=
  let state := if r.isEnabled o then "enabled" else "disabled"
  s!"hotkey {o.id}: {o.chord.text} ({state})"

end Runtime

end Hotkeys.Script
