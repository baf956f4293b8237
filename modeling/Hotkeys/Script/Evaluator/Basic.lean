import Hotkeys.Script.Interpreter
import Hotkeys.Script.Operator

/-!
# Running scripts

A script works on an interpreter, under conditions that hold as long as it runs, and may fail with
a value. Expressions, blocks and calls stand inside one another, so whatever stands one level deeper
is run by an `Evaluator` that is a parameter of everything else.
-/

namespace Hotkeys.Script

/-- What a script does: it reads the conditions, may raise a value and changes the interpreter, and
the changes stay when a value is raised. -/
abbrev Run (φ : Type) :=
  ReaderT Conditions (ExceptT (Value (Callable φ)) (StateM (Interpreter φ)))

/-- A line of a script, as messages show it. -/
structure Position where
  title : String
  line : Nat

/-- A function that runs. -/
structure Frame (φ : Type) where
  title : String
  names : Names := []
  /-- The arguments beyond the parameters. -/
  extra : List (Value (Callable φ)) := []
  /-- Where the calls under way have been made, the latest first. A call that no script has made has
  no such place. -/
  callers : List (Option Position) := []

/-- How a block ends. -/
inductive Control (φ : Type)
  /-- Behind its last statement. -/
  | next
  /-- The loop around ends. -/
  | leave
  | give (values : List (Value (Callable φ)))
  | jump (label : String)

/-- What runs the parts of a script one level deeper. -/
structure Evaluator (φ : Type) where
  /-- The values of an expression. -/
  values : Frame φ → Expression → Run φ (List (Value (Callable φ)))
  block : Frame φ → Block → Run φ (Control φ)
  /-- Calls a function; the calls under way are given with this one first. -/
  call : List (Option Position) → Value (Callable φ) → List (Value (Callable φ)) →
    Run φ (List (Value (Callable φ)))

namespace Run

variable {φ : Type}

/-- Fails with a message. -/
def fail {α : Type} (message : String) : Run φ α := throw (.string message)

/-- Fails with a message about a place in a script, if there is one. -/
def failAt {α : Type} (p : Option Position) (message : String) : Run φ α :=
  fail (p.elim message fun p => s!"{p.title}:{p.line}: {message}")

/-- Fails with a message about the place of a call. -/
def failIn {α : Type} (callers : List (Option Position)) (message : String) : Run φ α :=
  failAt (callers.head?.bind fun p => p) message

/-- Does something with the interpreter that may fail with an exception. -/
def attempt {α : Type}
    (f : Interpreter φ → Conditions → Except Exception α × Interpreter φ) : Run φ α := do
  let (r, i) := f (← get) (← read)
  set i
  match r with
  | .ok a => return a
  | .error e => throw (.failure e)

/-- Keeps the value of a new variable; the result is its number. -/
def newVariable (v : Value (Callable φ)) : Run φ Nat :=
  modifyGet fun i => (i.values.size, { i with values := i.values.push v })

/-- Declares variables with values; those without a value are `nil`. -/
def declare : List String → List (Value (Callable φ)) → Names → Run φ Names
  | [], _, names => return names
  | name :: rest, vs, names => do
    let n ← newVariable (vs.headD .nil)
    declare rest (vs.drop 1) ((name, n) :: names)

end Run

namespace Frame

variable {φ : Type}

/-- The place of a line in the script of a frame. -/
def position (x : Frame φ) (line : Nat) : Option Position := some ⟨x.title, line⟩

/-- Fails with a message about a line. -/
def fail {α : Type} (x : Frame φ) (line : Nat) (message : String) : Run φ α :=
  Run.failAt (x.position line) message

end Frame

end Hotkeys.Script
