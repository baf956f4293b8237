import Hotkeys.Script.Fields
import Hotkeys.Script.Library
import Hotkeys.Script.Program

/-!
# What scripts work on

An interpreter is a runtime of hotkey objects with the tables, functions and variables of scripts.
They are kept by number: the first table holds the variables that all scripts share, the second one
the hotkey library. `φ` is the type of functions that hosts have.
-/

namespace Hotkeys.Script

/-- The functions that are there from the beginning. -/
inductive Builtin
  | library (f : Function)
  | method (m : Method)
  /-- Tells the host a label and a value. -/
  | note
  | print
  | type
  | toString
  | toNumber
  | assert
  | error
  /-- Calls a function and survives its error. -/
  | guard
  | select
  | next
  /-- What a loop over all keys of a table works with. -/
  | pairs
  /-- What a loop over the sequence in a table works with. -/
  | sequence
  /-- The step of a loop over a sequence. -/
  | sequenceStep
  | rawGet
  | rawSet
  | rawEqual
  | rawLength
  /-- Ends the life of objects that cannot be reached. -/
  | collect
  deriving DecidableEq, Repr

/-- The names that scripts have for the functions that belong to no library. -/
def Builtin.named : List (String × Builtin) :=
  [("print", print), ("type", type), ("tostring", toString), ("tonumber", toNumber),
    ("assert", assert), ("error", error), ("pcall", guard), ("select", select), ("next", next),
    ("pairs", pairs), ("ipairs", sequence), ("rawget", rawGet), ("rawset", rawSet),
    ("rawequal", rawEqual), ("rawlen", rawLength), ("collectgarbage", collect)]

/-- A function that a script can call. -/
inductive Callable (φ : Type)
  | host (f : φ)
  /-- A function of a script, by its number. -/
  | closure (number : Nat)
  | builtin (b : Builtin)

/-- The variables that can be used somewhere, the latest first, by the numbers of their values. -/
abbrev Names := List (String × Nat)

/-- A function of a script with the variables around it. -/
structure Closure where
  /-- The script as messages show it. -/
  title : String
  body : Body
  names : Names

/-- What a script tells a host while it runs. -/
structure Note (φ : Type) where
  label : String
  value : Value (Callable φ)

/-- What a script can reach: the library with its objects, variables, tables and functions, and the
notes that it leaves for its host. -/
structure Interpreter (φ : Type) where
  runtime : Runtime (Callable φ)
  /-- The values of variables. -/
  values : Array (Value (Callable φ)) := #[]
  tables : Array (Fields (Callable φ)) := #[]
  closures : Array Closure := #[]
  notes : List (Note φ) := []
  /-- The lines that have been printed. -/
  printed : List String := []

/-- An argument as a host gives it. -/
inductive Argument (φ : Type)
  | value (v : Value (Callable φ))
  /-- The value of a variable that all scripts share. -/
  | named (name : String)
  /-- A new table. -/
  | sequence (items : List (Argument φ))
  deriving Inhabited

namespace Interpreter

variable {φ : Type}

/-- Whether two functions are the same one. -/
def sameFunction : Callable φ → Callable φ → Bool
  | .closure m, .closure n => m == n
  | .builtin a, .builtin b => a == b
  | _, _ => false

/-- Whether two values are the same one, which is what counts for keys of tables. -/
def same : Value (Callable φ) → Value (Callable φ) → Bool :=
  Value.equal Value.sameNumber sameFunction (· == ·)

/-- Equality as scripts and hosts see it. Two hotkey objects are equal if they have the same
identifier. -/
def equal (i : Interpreter φ) (numbers : Int → Float → Bool) (a b : Value (Callable φ)) : Bool :=
  a.equal numbers sameFunction
    (fun m n => m == n || ((i.runtime.idOf m).isSome && i.runtime.idOf m == i.runtime.idOf n)) b

/-! ## Tables and variables -/

/-- The fields of a table, by its number. -/
def fields (i : Interpreter φ) (n : Nat) : Fields (Callable φ) := i.tables.getD n {}

def getField (i : Interpreter φ) (n : Nat) (k : Value (Callable φ)) : Value (Callable φ) :=
  (i.fields n).get same k

def setField (i : Interpreter φ) (n : Nat) (k v : Value (Callable φ)) : Interpreter φ :=
  { i with tables := i.tables.modify n fun f => f.set same k v }

/-- A new table with the given fields. -/
def addTable (i : Interpreter φ) (f : Fields (Callable φ)) : Value (Callable φ) × Interpreter φ :=
  (.table i.tables.size, { i with tables := i.tables.push f })

/-- A new table with the given values in a row. -/
def addSequence (i : Interpreter φ) (items : List (Value (Callable φ))) :
    Value (Callable φ) × Interpreter φ :=
  i.addTable ((items.mapIdx fun k v => (k, v)).foldl
    (fun f e => f.set same (.integer ((e.1 + 1 : Nat) : Int)) e.2) {})

/-- The table of the variables that all scripts share. -/
def sharedTable : Nat := 0

def libraryTable : Nat := 1

/-- The value of a global variable. -/
def global (i : Interpreter φ) (name : String) : Value (Callable φ) :=
  i.getField sharedTable (.string name)

def setGlobal (i : Interpreter φ) (name : String) (v : Value (Callable φ)) : Interpreter φ :=
  i.setField sharedTable (.string name) v

/-- A table of functions. -/
def functionTable (fs : List (String × Builtin)) : Fields (Callable φ) :=
  { others := fs.map fun f => (.string f.1, .function (.builtin f.2)) }

/-- An interpreter that has run no script yet. -/
def new (runtime : Runtime (Callable φ)) : Interpreter φ :=
  let i : Interpreter φ :=
    { runtime
      tables := #[functionTable Builtin.named,
        functionTable (Function.all.map fun f => (f.name, .library f))] }
  (i.setGlobal "hotkey" (.table libraryTable)).setGlobal "_G" (.table sharedTable)

/-! ## The library -/

/-- Calls a function of the library. -/
def callFunction (i : Interpreter φ) (env : Conditions) (f : Function)
    (args : List (Value (Callable φ))) : Except Exception (Value (Callable φ)) × Interpreter φ :=
  match i.runtime.call (fun n => (i.fields n).items) env f args with
  | (.error e, runtime) => (.error e, { i with runtime })
  | (.ok (.value v), runtime) => (.ok v, { i with runtime })
  | (.ok (.sequence items), runtime) =>
    let (v, i) := { i with runtime }.addSequence items
    (.ok v, i)

/-- Calls a method of a value, which has to be a hotkey object. -/
def callMethod (i : Interpreter φ) (env : Conditions) (v : Value (Callable φ)) (m : Method) :
    Except Exception (List (Value (Callable φ))) × Interpreter φ :=
  match v with
  | .hotkey n =>
    let (values, runtime) := i.runtime.callMethod env m n
    (.ok values, { i with runtime })
  | v => (.error (.conversion none v.typeName .object), i)

/-- A value as text. What a table, a function or a foreign object is shown as is not told. -/
def textOf (i : Interpreter φ) : Value (Callable φ) → String
  | .nil => "nil"
  | .boolean b => if b then "true" else "false"
  | .integer n => Value.integerText n
  | .number x => Value.numberText x
  | .string s => s
  | .bytes _ content => Text.mended content
  | .hotkey n => ((i.runtime.object? n).map i.runtime.objectText).getD ""
  | .failure e => e.message
  | v => v.typeName

mutual

/-- The value of an argument; the tables in it are made anew. -/
def evaluate (i : Interpreter φ) : Argument φ → Value (Callable φ) × Interpreter φ
  | .value v => (v, i)
  | .named name => (i.global name, i)
  | .sequence items =>
    let (vs, i) := i.evaluateAll items
    i.addSequence vs

/-- The values of arguments, evaluated from left to right. -/
def evaluateAll (i : Interpreter φ) :
    List (Argument φ) → List (Value (Callable φ)) × Interpreter φ
  | [] => ([], i)
  | a :: rest =>
    let (v, i) := i.evaluate a
    let (vs, i) := i.evaluateAll rest
    (v :: vs, i)

end

/-! ## What can still be reached -/

/-- What has been found to be reachable. -/
structure Reached where
  tables : List Nat := []
  closures : List Nat := []
  objects : List Nat := []

/-- Notes that a value can be reached, and tells what can be reached through it. -/
def visit (i : Interpreter φ) (r : Reached) :
    Value (Callable φ) → Reached × List (Value (Callable φ))
  | .table n =>
    if r.tables.contains n then (r, [])
    else ({ r with tables := n :: r.tables }, (i.fields n).entries.flatMap fun e => [e.1, e.2])
  | .function (.closure n) =>
    if r.closures.contains n then (r, [])
    else ({ r with closures := n :: r.closures },
      ((i.closures[n]?).elim [] (·.names)).map fun v => i.values.getD v.2 .nil)
  | .hotkey n => ({ r with objects := n :: r.objects }, [])
  | _ => (r, [])

/-- Follows values through tables and functions. -/
def follow (i : Interpreter φ) : Nat → List (Value (Callable φ)) → Reached → Reached
  | _, [], r => r
  | 0, _, r => r
  | fuel + 1, v :: rest, r =>
    let (r, more) := i.visit r v
    i.follow fuel (more ++ rest) r

/-- How many values there are in all tables and functions, which bounds the way through them. -/
def extent (i : Interpreter φ) : Nat :=
  i.tables.foldl (fun n f => n + 2 * f.entries.length) 0 +
    i.closures.foldl (fun n c => n + c.names.length) 0

/-- The hotkey objects that can be reached from some values or from what there always is. An object
keeps its handler, and so do the slots and the dispatches under way of the bridge. -/
def reachable (i : Interpreter φ) (held : List (Value (Callable φ))) : List Nat :=
  let cells := i.runtime.bridge.slots.values ++ i.runtime.bridge.running.filterMap fun c => c
  let handlers := i.runtime.objects.map (·.handler) ++ cells.map (·.handler)
  let roots := Value.table sharedTable :: held ++ handlers.map .function
  (i.follow (roots.length + i.extent) roots {}).objects

/-- Ends the life of all objects that cannot be reached. Those that could only be reached through
the handler of another one are left. -/
def collectOnce (i : Interpreter φ) (env : Conditions) (held : List (Value (Callable φ))) :
    Interpreter φ :=
  { i with runtime := i.runtime.collect env (i.reachable held) }

/-- What a host does when no script runs. -/
def collect (i : Interpreter φ) (env : Conditions) : Interpreter φ :=
  (i.collectOnce env []).collectOnce env []

end Interpreter

end Hotkeys.Script
