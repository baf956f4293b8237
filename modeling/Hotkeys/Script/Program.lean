import Hotkeys.Script.Numeral

/-!
# Scripts as trees

What a script says, once it has been read. Lines are kept where a script can fail when it runs, and
it is kept of a variable where it has been declared, so that a message can tell.
-/

namespace Hotkeys.Script

/-- Where a variable has been declared. -/
inductive Scope
  /-- In the function that uses it. -/
  | own
  /-- In a function around. -/
  | outer
  /-- Nowhere: all scripts share it. -/
  | shared
  deriving DecidableEq, Repr

/-- The operators with one operand. -/
inductive UnaryOp
  | negate
  | not
  | length
  | complement
  deriving DecidableEq, Repr

/-- The operators that compare two values. -/
inductive Comparison
  | equal
  | unequal
  | less
  | lessEqual
  | greater
  | greaterEqual
  deriving DecidableEq, Repr

/-- The operators on numbers. -/
inductive Arithmetic
  | add
  | subtract
  | multiply
  | divide
  | divideFloor
  | modulo
  | power
  deriving DecidableEq, Repr

/-- The operators on the bits of whole numbers. -/
inductive Bitwise
  | and
  | or
  | exclusive
  | shiftLeft
  | shiftRight
  deriving DecidableEq, Repr

/-- The operators with two operands. -/
inductive BinaryOp
  | arithmetic (op : Arithmetic)
  | bitwise (op : Bitwise)
  | comparison (op : Comparison)
  | concatenate
  /-- The second operand counts if the first one is true. -/
  | both
  /-- The second operand counts if the first one is false. -/
  | either
  deriving DecidableEq, Repr

/-- A name that has been declared, and whether its value has to be one that can be closed. -/
structure Declared where
  name : String
  closes : Bool := false

mutual

/-- What a script can compute a value from. -/
inductive Expression
  | nil
  | boolean (b : Bool)
  | numeral (n : Numeral)
  | string (content : List UInt8)
  /-- The arguments beyond the parameters. -/
  | extra
  | function (f : Body)
  | named (scope : Scope) (name : String)
  | field (table key : Expression) (line : Nat)
  | call (f : Expression) (args : List Expression) (line : Nat)
  | method (object : Expression) (name : String) (args : List Expression) (line : Nat)
  | table (entries : List Entry)
  | unary (op : UnaryOp) (e : Expression) (line : Nat)
  | binary (op : BinaryOp) (a b : Expression) (line : Nat)
  /-- An expression in parentheses, of which only the first value counts. -/
  | single (e : Expression)

/-- An entry of a table that is written out. -/
inductive Entry
  | next (value : Expression)
  | keyed (key value : Expression) (line : Nat)

/-- What a script can do, one step after the other. -/
inductive Statement
  | declare (names : List Declared) (values : List Expression) (line : Nat)
  | assign (targets values : List Expression) (line : Nat)
  | call (e : Expression)
  | group (block : List Statement)
  | choose (condition : Expression) (block others : List Statement)
  | repeatWhile (condition : Expression) (block : List Statement)
  /-- The block is executed before the condition is looked at, which can use its variables. -/
  | repeatUntil (block : List Statement) (condition : Expression)
  | count (name : String) (first last : Expression) (step : Option Expression)
      (block : List Statement) (line : Nat)
  | each (names : List String) (values : List Expression) (block : List Statement) (line : Nat)
  /-- A function with a variable of its own, which it can use itself. -/
  | declareFunction (name : String) (f : Body)
  | give (values : List Expression)
  | leave
  | jump (label : String)
  | label (name : String)

/-- A function: its parameters, whether it takes arguments beyond them, the variables of functions
around that it uses, and what it does. -/
inductive Body
  | body (parameters : List String) (takesExtra : Bool) (borrowed : List String)
      (block : List Statement)

end

instance : Inhabited Expression := ⟨.nil⟩

/-- A list of statements with variables of its own. -/
abbrev Block := List Statement

end Hotkeys.Script
