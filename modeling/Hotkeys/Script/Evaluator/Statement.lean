import Hotkeys.Script.Evaluator.Expression

/-!
# Executing statements

A block is executed statement by statement, with more and more variables. `Evaluator.level n` runs
whatever has no more than `n` levels of calls, blocks and expressions inside one another.
-/

namespace Hotkeys.Script

/-- How many variables a statement declares. -/
def Statement.declared : Statement → Nat
  | .declare names _ _ => names.length
  | .declareFunction _ _ => 1
  | _ => 0

/-- What follows a label of a block, and how many variables the block has declared in front. -/
def Block.behindLabel? (label : String) : Block → Nat → Option (Nat × Block)
  | [], _ => none
  | .label name :: rest, n =>
    if name == label then some (n, rest) else behindLabel? label rest n
  | s :: rest, n => behindLabel? label rest (n + s.declared)

namespace Evaluator

variable {φ : Type} (inner : Evaluator φ)

/-- How often a loop can go round. No loop of a script that ends gets there. -/
def mostRounds : Nat := Nat.pow 2 62

/-! ## Assignments -/

/-- What something is assigned to. -/
inductive Target (φ : Type)
  | named (name : String)
  | field (origin : Expression) (table key : Value (Callable φ))

/-- Where an assignment puts its value. What the place is made of is evaluated before the values
are. -/
def target (x : Frame φ) : Expression → Run φ (Target φ)
  | .named _ name => return .named name
  | .field t k _ => do
    let v ← inner.one x t
    let key ← inner.one x k
    return .field t v key
  | _ => return .named ""

/-- Puts a value into one place. -/
def assignTo (x : Frame φ) (line : Nat) (v : Value (Callable φ)) : Target φ → Run φ Unit
  | .named name =>
    match x.names.lookup name with
    | some n => modify fun i => { i with values := i.values.setIfInBounds n v }
    | none => modify fun i => i.setGlobal name v
  | .field _ (.table n) k => do
    checkKey x line k
    modify fun i => i.setField n k v
  | .field origin t _ => x.fail line s!"attempt to index a {t.kindName} value{origin.origin}"

/-- Assigns values to places, from the last one to the first. -/
def assign (x : Frame φ) (line : Nat) (targets values : List Expression) : Run φ Unit := do
  let ts ← targets.mapM (inner.target x)
  let vs ← inner.list x values
  ((ts.mapIdx fun i t => (t, vs.getD i .nil)).reverse).forM fun e => assignTo x line e.2 e.1

/-- Fails if a variable that has to be closed has a value that cannot be. -/
def checkClosing (x : Frame φ) (line : Nat) : List Declared → List (Value (Callable φ)) → Run φ Unit
  | [], _ => pure ()
  | d :: rest, vs => do
    if d.closes && (vs.headD .nil).isTrue then
      x.fail line s!"variable '{d.name}' got a non-closable value"
    checkClosing x line rest (vs.drop 1)

/-! ## Loops -/

/-- Goes on with a loop unless its block ends it. -/
def afterRound (c : Control φ) (again : Run φ (Control φ)) : Run φ (Control φ) :=
  match c with
  | .next => again
  | .leave => return .next
  | c => return c

/-- Fails because there is too much under way. -/
def exhausted {α : Type} (callers : List (Option Position)) : Run φ α :=
  Run.failIn callers "stack overflow"

/-- Goes round as long as the condition is true. -/
def whileLoop (x : Frame φ) (e : Expression) (b : Block) : Nat → Run φ (Control φ)
  | 0 => exhausted x.callers
  | fuel + 1 => do
    if (← inner.one x e).isTrue then
      let c ← inner.block x b
      afterRound c (whileLoop x e b fuel)
    else return .next

/-- A loop over a number of integers with the same distance. -/
def integerLoop (x : Frame φ) (name : String) (b : Block) (step : Int) :
    Nat → Int → Run φ (Control φ)
  | 0, _ => return .next
  | rounds + 1, n => do
    let names ← Run.declare [name] [.integer n] x.names
    let c ← inner.block { x with names } b
    afterRound c (integerLoop x name b step rounds (n + step))

/-- A counting loop over floating-point numbers. -/
def numberLoop (x : Frame φ) (name : String) (b : Block) (last step : Float) :
    Nat → Float → Run φ (Control φ)
  | 0, _ => exhausted x.callers
  | fuel + 1, n => do
    if if 0 < step then n ≤ last else last ≤ n then
      let names ← Run.declare [name] [.number n] x.names
      let c ← inner.block { x with names } b
      afterRound c (numberLoop x name b last step fuel (n + step))
    else return .next

/-- The last integer that a limit lets a loop come to; with a NaN the loop does not begin. -/
def lastInteger? (step : Int) : Numeral → Option Int
  | .integer n => some n
  | .number f =>
    if f.isNaN then none
    else
      let whole := if 0 < step then f.floor else f.ceil
      if 9223372036854775808.0 ≤ whole then some Numeral.greatest
      else if whole < -9223372036854775808.0 then some (-Numeral.greatest - 1)
      else some whole.toInt64.toInt

/-- A number that a loop needs. -/
def wantedNumber (x : Frame φ) (line : Nat) (what : String) (v : Value (Callable φ)) :
    Run φ Numeral :=
  match v.numeral? with
  | some n => return n
  | none => x.fail line s!"bad 'for' {what} (number expected, got {v.kindName})"

/-- A counting loop. It counts in whole numbers if the start and the step are whole. -/
def countLoop (x : Frame φ) (line : Nat) (name : String) (b : Block)
    (first last step : Value (Callable φ)) : Run φ (Control φ) := do
  match first, step with
  | .integer m, .integer d =>
    if d = 0 then x.fail line "'for' step is zero"
    let limit ← wantedNumber x line "limit" last
    match lastInteger? d limit with
    | none => return .next
    | some n =>
      if if 0 < d then m ≤ n else n ≤ m then
        inner.integerLoop x name b d ((n - m).natAbs / d.natAbs + 1) m
      else return .next
  | _, _ =>
    let limit ← wantedNumber x line "limit" last
    let d ← wantedNumber x line "step" step
    let m ← wantedNumber x line "initial value" first
    if Value.float d == 0 then x.fail line "'for' step is zero"
    inner.numberLoop x name b (Value.float limit) (Value.float d) mostRounds (Value.float m)

/-- Calls the function of a loop for its next values. The function that goes through a table needs
one. -/
def nextValues (x : Frame φ) (line : Nat) (f s k : Value (Callable φ)) :
    Run φ (List (Value (Callable φ))) :=
  match f, s with
  | .function (.builtin .next), .table _ =>
    inner.apply x line "" f [s, k]
  | .function (.builtin .next), s =>
    x.fail line s!"bad argument #1 to 'for iterator' (table expected, got {s.kindName})"
  | f, s => inner.apply x line " (for iterator 'for iterator')" f [s, k]

/-- A loop over what a function gives, until it gives `nil`. -/
def eachLoop (x : Frame φ) (line : Nat) (names : List String) (b : Block)
    (f s : Value (Callable φ)) : Nat → Value (Callable φ) → Run φ (Control φ)
  | 0, _ => exhausted x.callers
  | fuel + 1, k => do
    let vs ← inner.nextValues x line f s k
    let k := vs.headD .nil
    if k.isNil then return .next
    else
      let all ← Run.declare names vs x.names
      let c ← inner.block { x with names := all } b
      afterRound c (eachLoop x line names b f s fuel k)

/-! ## Statements and blocks -/

/-- Executes a statement; the result has the variables that there are behind it. -/
def statement (x : Frame φ) (s : Statement) : Run φ (Control φ × Names) := do
  let inside (r : Run φ (Control φ)) : Run φ (Control φ × Names) := do
    return (← r, x.names)
  match s with
  | .declare ds values line =>
    let vs ← inner.list x values
    checkClosing x line ds vs
    return (.next, ← Run.declare (ds.map (·.name)) vs x.names)
  | .assign targets values line =>
    inner.assign x line targets values
    return (.next, x.names)
  | .call e =>
    discard (inner.values x e)
    return (.next, x.names)
  | .group b => inside (inner.block x b)
  | .choose e b others =>
    inside do inner.block x (if (← inner.one x e).isTrue then b else others)
  | .repeatWhile e b => inside (inner.whileLoop x e b mostRounds)
  | .repeatUntil b e =>
    inside (inner.whileLoop x (.boolean true)
      (b ++ [.choose e [.leave] []]) mostRounds)
  | .count name first last step b line =>
    inside do
      let m ← inner.one x first
      let n ← inner.one x last
      let d ← step.elim (pure (.integer 1)) (inner.one x)
      inner.countLoop x line name b m n d
  | .each names values b line =>
    inside do
      let vs ← inner.list x values
      if (vs.getD 3 .nil).isTrue then
        x.fail line "variable '(for state)' got a non-closable value"
      inner.eachLoop x line names b (vs.getD 0 .nil) (vs.getD 1 .nil) mostRounds (vs.getD 2 .nil)
  | .declareFunction name f =>
    let names ← Run.declare [name] [] x.names
    let x := { x with names }
    assignTo x 0 (← newFunction x f) (.named name)
    return (.next, names)
  | .give values => return (.give (← inner.list x values), x.names)
  | .leave => return (.leave, x.names)
  | .jump label => return (.jump label, x.names)
  | .label _ => return (.next, x.names)

/-- Executes statements until one does not go on to the next one. -/
def statements (x : Frame φ) : Block → Run φ (Control φ × Names)
  | [] => return (.next, x.names)
  | s :: rest => do
    match ← inner.statement x s with
    | (.next, names) => statements { x with names } rest
    | ended => return ended

/-- Executes a block from some statement on. A jump to a label of the block goes on behind the
label, with the variables that there are in front of it; `before` is how many there were before the
block. -/
def goThrough (all : Block) (before : Nat) : Nat → Frame φ → Block → Run φ (Control φ)
  | 0, x, _ => exhausted x.callers
  | fuel + 1, x, rest => do
    match ← inner.statements x rest with
    | (.jump label, names) =>
      match all.behindLabel? label 0 with
      | some (declared, rest) =>
        let names := names.drop (names.length - (before + declared))
        goThrough all before fuel { x with names } rest
      | none => return .jump label
    | (c, _) => return c

/-- Executes a block whose parts are one level deeper. -/
def execute (x : Frame φ) (b : Block) : Run φ (Control φ) :=
  inner.goThrough b x.names.length mostRounds x b

/-! ## Tying the levels together -/

/-- Runs what has no more than a number of levels inside one another. -/
def level : Nat → Evaluator φ
  | 0 =>
    { values := fun x _ => exhausted x.callers
      block := fun x _ => exhausted x.callers
      call := fun callers _ _ => exhausted callers }
  | n + 1 =>
    { values := fun x e env => evaluate (level n) x e env
      block := fun x b env => execute (level n) x b env
      call := fun callers f args env => callFunction (level n) callers f args env }

/-- How many levels of calls, blocks and expressions there can be. -/
def mostLevels : Nat := 100000

end Evaluator

end Hotkeys.Script
