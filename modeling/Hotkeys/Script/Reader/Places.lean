import Hotkeys.Script.Reader.Draft

/-!
# Places for values

A function has a limited number of places. Its variables take the first ones, and the values of
expressions take the next ones while they wait for what is done with them: the function and the
arguments of a call, the entries of a table, the operands of an operator. What is read last knows
what it stands on by its `Operand`.
-/

namespace Hotkeys.Script

/-- What an expression needs places for. -/
inductive Operand
  | nothing
  /-- A value that is known when the script is read; a number may be worked with at once. -/
  | known (n : Option Numeral)
  /-- A value in a place of its own. -/
  | held (place : Nat)
  | own (place : Nat) (isFixed : Bool)
  | outer (isFixed : Bool)
  /-- A variable whose value is known. -/
  | constant
  /-- A field of a table; the table and the key may stand in places. -/
  | field (table key : Option Nat)
  /-- What a call returns, in the place of the function. -/
  | call (place : Nat)
  | extra
  /-- A value that has no place yet. -/
  | homeless

namespace Operand

/-- Whether something can be assigned to an expression. -/
def isTarget : Operand → Bool
  | own _ _ | outer _ | constant | field _ _ => true
  | _ => false

/-- Whether a variable may not be assigned to. -/
def isFixed : Operand → Bool
  | own _ fixed | outer fixed => fixed
  | constant => true
  | _ => false

/-- Whether an expression can have any number of values. -/
def isMultiple : Operand → Bool
  | call _ | extra => true
  | _ => false

/-- Whether the value is known while the script is read. -/
def isKnown : Operand → Bool
  | known _ | constant => true
  | _ => false

def isNumeral : Operand → Bool
  | known (some _) => true
  | _ => false

end Operand

namespace Reader

/-- Takes more places, of which a function has only so many. -/
def reserve (n : Nat) : Reader Unit := do
  if Draft.mostPlaces < (← draft).free + n then
    complain "function or expression needs too many registers"
  updateDraft fun d => { d with free := d.free + n }

/-- Frees the last place, unless it is that of a variable. -/
def release (place : Nat) : Reader Unit :=
  updateDraft fun d => if d.base ≤ place then { d with free := d.free - 1 } else d

def releaseAll (places : List Nat) : Reader Unit := places.forM release

/-- Gives the place of an operand back, if it holds one. -/
def releaseHeld : Operand → Reader Unit
  | .held p => release p
  | _ => pure ()

/-- Frees all places but those of variables. -/
def releaseTemporary : Reader Unit := updateDraft fun d => { d with free := d.base }

/-- Fetches the one value of an expression. -/
def fetch : Operand → Reader Operand
  | .own p _ | .call p => return .held p
  | .outer _ | .extra => return .homeless
  | .constant => return .known none
  | .field table key => do
    releaseAll (table.toList ++ key.toList)
    return .homeless
  | o => return o

/-- Puts the value of an expression into the next place. -/
def toNext (o : Operand) : Reader Nat := do
  releaseHeld (← fetch o)
  reserve 1
  return (← draft).free - 1

/-- Puts the value of an expression into a place, unless it is in one. -/
def toPlace (o : Operand) : Reader Nat := do
  match ← fetch o with
  | .held p => return p
  | o => toNext o

/-- The field of a table by a key that is known. -/
def fieldOf (table : Operand) : Reader Operand := do
  match table with
  | .outer _ => return .field none none
  | table => return .field (some (← toPlace table)) none

/-- The field of a table that is in a place by a key that is worked out. -/
def fieldBy (table : Nat) (key : Operand) : Reader Operand := do
  if key.isKnown then return .field (some table) none
  else return .field (some table) (some (← toPlace key))

/-- Hands a value on to what it is assigned to. A field can take a known value without a place. -/
def store (target o : Operand) : Reader Unit := do
  let o ← fetch o
  match target with
  | .own _ _ => releaseHeld o
  | .field _ _ => unless o.isKnown do release (← toPlace o)
  | _ => release (← toPlace o)

/-- Two places for a method and its object. -/
def toMethod (object : Operand) : Reader Nat := do
  release (← toPlace object)
  let p := (← draft).free
  reserve 2
  return p

/-- Whether the value of an operator is worked out when the script is read. A floating-point number
that is zero is not. -/
def negated? : Operand → Option Operand
  | .known (some (.integer n)) => some (.known (some (.integer (Numeral.wrap (-n)))))
  | .known (some (.number x)) => if x == 0 then none else some (.known (some (.number (-x))))
  | _ => none

def toHomeless (o : Operand) : Reader Operand := do
  release (← toPlace o)
  return .homeless

/-- The operand that an operator makes of its operand. -/
def applyUnary (op : UnaryOp) (o : Operand) : Reader Operand := do
  let o ← fetch o
  match op with
  | .negate =>
    match negated? o with
    | some o => return o
    | none => toHomeless o
  | .complement => if o.isNumeral then return o else toHomeless o
  | .not => if o.isKnown then return .known none else toHomeless o
  | .length => toHomeless o

/-- Prepares the first operand of an operator before the second one is read. -/
def prepare (op : BinaryOp) (o : Operand) : Reader Operand := do
  let o ← fetch o
  match op with
  | .concatenate => return .held (← toNext o)
  | .both | .either => if o.isKnown then return o else toHomeless o
  | .comparison .equal | .comparison .unequal =>
    if o.isKnown then return o else return .held (← toPlace o)
  | _ => if o.isNumeral then return o else return .held (← toPlace o)

/-- The operand that an operator makes of its two operands. -/
def applyBinary (op : BinaryOp) (a b : Operand) : Reader Operand := do
  let b ← fetch b
  let settle (o : Operand) (known : Bool) : Reader Operand := do
    if known then return o else return .held (← toPlace o)
  match op with
  | .both | .either => return b
  | .concatenate =>
    release (← toNext b)
    return a
  | .arithmetic _ | .bitwise _ =>
    if a.isNumeral && b.isNumeral then return b
    else
      let b ← settle b b.isNumeral
      releaseHeld b
      releaseHeld a
      return .homeless
  | .comparison _ =>
    let b ← settle b b.isKnown
    releaseHeld b
    releaseHeld a
    return .homeless

end Reader

end Hotkeys.Script
