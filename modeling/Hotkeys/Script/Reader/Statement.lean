import Hotkeys.Script.Reader.Expression

/-!
# Reading statements and scripts

`Level.level n` reads whatever may have `n` levels of statements and expressions inside one another.
A script has a limited number of levels, which bounds the reading.
-/

namespace Hotkeys.Script

namespace Level

variable (inner : Level)

/-! ## Blocks -/

/-- Reads the statements of a block with variables of its own. -/
def block : Reader Block := do
  Reader.enterBlock false
  let b ← inner.statements
  Reader.leaveBlock
  return b

/-- Reads a block up to the word that closes it. -/
def blockUpTo (closing opening : String) (line : Nat) : Reader Block := do
  let b ← inner.block
  Reader.expectClosing closing opening line
  return b

/-- Reads a condition, which leaves no value in a place. -/
def condition : Reader Expression := do
  let (e, o) ← inner.expression 0
  let o ← Reader.fetch o
  unless o.isKnown do discard (Reader.toHomeless o)
  return e

/-- Reads an expression and puts its value into the next place. -/
def placed : Reader Expression := do
  let (e, o) ← inner.expression 0
  discard (Reader.toNext o)
  return e

/-- Gives places to a number of values. Values are missing or left over unless the last expression
has as many as are wanted. -/
def adjust (wanted given : Nat) (last : Operand) : Reader Unit := do
  if last.isMultiple then
    match last with
    | .extra => Reader.reserve 1
    | _ => pure ()
  else if 0 < given then discard (Reader.toNext last)
  if given ≤ wanted then Reader.reserve (wanted - given)
  else Reader.updateDraft fun d => { d with free := d.free - (given - wanted) }

/-! ## Conditions and loops -/

/-- Reads a condition and its block, and whatever else there is of an `if` up to its end. -/
def choice (line : Nat) : Nat → Reader (List (Expression × Block) × Block)
  | 0 => return ([], [])
  | fuel + 1 => do
    Reader.next
    let e ← inner.condition
    Reader.expect "then"
    let b ← inner.block
    if ← Reader.isAt "elseif" then
      let (more, others) ← choice line fuel
      return ((e, b) :: more, others)
    else
      let others ← if ← Reader.accept "else" then inner.block else pure []
      Reader.expectClosing "end" "if" line
      return ([(e, b)], others)

/-- Reads a choice between blocks. -/
def ifStatement (line : Nat) : Reader Statement := do
  let (cases, others) ← inner.choice line (← Reader.remaining)
  return cases.foldr (fun c rest => .choose c.1 c.2 [rest]) (.group others)

/-- Reads a loop with its condition in front. -/
def whileStatement (line : Nat) : Reader Statement := do
  Reader.next
  let e ← inner.condition
  Reader.enterBlock true
  Reader.expect "do"
  let b ← inner.blockUpTo "end" "while" line
  Reader.leaveBlock
  return .repeatWhile e b

/-- Reads a loop with its condition at the end, which sees the variables of the block. -/
def repeatStatement (line : Nat) : Reader Statement := do
  Reader.enterBlock true
  Reader.enterBlock false
  Reader.next
  let b ← inner.statements
  Reader.expectClosing "until" "repeat" line
  let e ← inner.condition
  Reader.leaveBlock
  Reader.leaveBlock
  return .repeatUntil b e

/-- Variables that a loop keeps its state in cannot be named by a script. -/
def hidden : Local := { name := "(for state)" }

/-- Reads what a loop does with its variables. -/
def loopBody (names : List String) : Reader Block := do
  Reader.expect "do"
  Reader.enterBlock false
  Reader.activate (names.map fun name => { name })
  Reader.reserve names.length
  let b ← inner.block
  Reader.leaveBlock
  return b

/-- Reads the rest of a counting loop. -/
def countStatement (name : String) : Reader Statement := do
  (List.replicate 4 ()).forM fun _ => Reader.nameLocal
  Reader.expect "="
  let first ← inner.placed
  Reader.expect ","
  let last ← inner.placed
  let step ← if ← Reader.accept "," then some <$> inner.placed
    else do
      Reader.reserve 1
      pure none
  Reader.activate (List.replicate 3 hidden)
  let line := (← Reader.current).line
  let b ← inner.loopBody [name]
  return .count name first last step b line

/-- Reads further names behind commas. -/
def names : Nat → List String → Reader (List String)
  | 0, done => return done.reverse
  | fuel + 1, done => do
    if ← Reader.accept "," then
      let name ← Reader.readName
      Reader.nameLocal
      names fuel (name :: done)
    else return done.reverse

/-- Reads the rest of a loop over what a function gives. -/
def eachStatement (name : String) : Reader Statement := do
  (List.replicate 5 ()).forM fun _ => Reader.nameLocal
  let all ← names (← Reader.remaining) [name]
  Reader.expect "in"
  let line := (← Reader.current).line
  let (values, last) ← inner.expressions
  adjust 4 values.length last
  Reader.activate (List.replicate 4 hidden)
  let free := (← Reader.draft).free
  Reader.reserve 3
  Reader.updateDraft fun d => { d with free }
  let b ← inner.loopBody all
  return .each all values b line

/-- Reads a loop of either kind with variables of its own. -/
def forStatement (line : Nat) : Reader Statement := do
  Reader.enterBlock true
  Reader.next
  let name ← Reader.readName
  let s ← match (← Reader.current).token with
    | .word "=" => inner.countStatement name
    | .word "," | .word "in" => inner.eachStatement name
    | _ => Reader.complain "'=' or 'in' expected"
  Reader.expectClosing "end" "for" line
  Reader.leaveBlock
  return s

/-! ## Variables and functions -/

/-- Fails if nothing can be assigned to an expression. -/
def checkTarget (r : Reading) : Reader Unit := do
  match r with
  | (.named _ name, o) =>
    if o.isFixed then Reader.fail s!"attempt to assign to const variable '{name}'"
  | _ => pure ()

/-- Reads the name of a function, whose parts have points between them; a colon stands in front of
the name of a method. The result tells whether it is one. -/
def functionName : Nat → Reading → Reader (Reading × Bool)
  | 0, r => return (r, false)
  | fuel + 1, (e, o) => do
    match (← Reader.current).token with
    | .word "." => functionName fuel (← namedField e o)
    | .word ":" => return (← namedField e o, true)
    | _ => return ((e, o), false)

/-- Reads a function that is assigned to a variable or a field. -/
def functionStatement (line : Nat) : Reader Statement := do
  Reader.next
  let (target, isMethod) ← functionName (← Reader.remaining) (← named)
  let (f, o) ← inner.body isMethod line
  checkTarget target
  Reader.store target.2 o
  return .assign [target.1] [.function f] line

/-- Reads a function with a variable of its own, which the function itself can use. -/
def localFunction : Reader Statement := do
  let name ← Reader.readName
  Reader.nameLocal
  Reader.activate [{ name }]
  let (f, _) ← inner.body false (← Reader.current).line
  return .declareFunction name f

/-- What is written behind the name of a variable. -/
inductive Attribute
  | none
  | fixed
  | closes
  deriving DecidableEq, Repr

/-- Reads what is special about a variable. -/
def readAttribute : Reader Attribute := do
  if ← Reader.accept "<" then
    let s ← Reader.readName
    Reader.expect ">"
    match s with
    | "const" => return .fixed
    | "close" => return .closes
    | s => Reader.fail s!"unknown attribute '{s}'"
  else return .none

/-- Reads the names that are declared, with their attributes. -/
def declaredNames : Nat → List (String × Attribute) → Reader (List (String × Attribute))
  | 0, done => return done.reverse
  | fuel + 1, done => do
    let name ← Reader.readName
    Reader.nameLocal
    let a ← readAttribute
    if a == .closes && done.any fun v => v.2 == .closes then
      Reader.fail "multiple to-be-closed variables in local list"
    if ← Reader.accept "," then declaredNames fuel ((name, a) :: done)
    else return ((name, a) :: done).reverse

/-- Reads the declaration of variables, which can be used behind it only. -/
def localStatement : Reader Statement := do
  let vs ← declaredNames (← Reader.remaining) []
  let (values, last) ← if ← Reader.accept "=" then inner.expressions else pure ([], .homeless)
  let locals : List Local := vs.map fun v => { name := v.1, isFixed := v.2 != .none }
  let isConstant := vs.length == values.length && last.isKnown &&
    vs.getLast?.any fun v => v.2 == .fixed
  if isConstant then
    Reader.activate (locals.mapIdx fun i v => { v with takesPlace := i + 1 < locals.length })
  else
    adjust vs.length values.length last
    Reader.activate locals
  return .declare (vs.map fun v => { name := v.1, closes := v.2 == .closes }) values
    (← get).lastLine

/-- Reads the rest of an assignment behind some targets. -/
def readAssignment (targets : List Reading) : Reader Statement := do
  match targets with
  | [] => Reader.complain "syntax error"
  | target :: _ =>
    unless target.2.isTarget do Reader.complain "syntax error"
    checkTarget target
    if ← Reader.accept "," then
      let r ← inner.suffixed
      inner.assignment (r :: targets)
    else
      Reader.expect "="
      let (values, last) ← inner.expressions
      if values.length = targets.length then Reader.store target.2 last
      else adjust targets.length values.length last
      return .assign (targets.map (·.1)).reverse values (← get).lastLine

/-- Reads a statement that begins with an expression: a call or an assignment. -/
def expressionStatement : Reader Statement := do
  let (e, o) ← inner.suffixed
  if (← Reader.isAt "=") || (← Reader.isAt ",") then inner.readAssignment [(e, o)]
  else match o with
    | .call _ => return .call e
    | _ => Reader.complain "syntax error"

/-! ## Jumps -/

/-- Fails if a function has a label of that name in the blocks around. -/
def checkLabel (name : String) : Reader Unit := do
  match (← Reader.draft).labels.find? fun l => l.name == name with
  | some l => Reader.fail s!"label '{name}' already defined on line {l.line}"
  | none => pure ()

/-- Notes a label, which jumps of the block meet. In front of a label at the end of a block no
variable of the block counts. -/
def addLabel (name : String) (line : Nat) (isLast : Bool) : Reader Unit := do
  let d ← Reader.draft
  let locals := if isLast then d.blocks.head?.elim 0 (·.locals) else d.locals.length
  match { d with labels := d.labels ++ [⟨name, line⟩] : Draft }.meet name locals with
  | .ok d => Reader.updateDraft fun _ => d
  | .error (j, v) =>
    Reader.fail s!"<goto {name}> at line {j.line} jumps into the scope of local '{v}'"

/-- Reads statements that do nothing. -/
def idleStatements : Nat → List Block → Reader Block
  | 0, done => return done.reverse.flatten
  | fuel + 1, done => do
    if (← Reader.isAt ";") || (← Reader.isAt "::") then
      let b ← inner.statement
      idleStatements fuel (b :: done)
    else return done.reverse.flatten

/-- Reads a label and the statements behind it that do nothing. -/
def labelStatement (line : Nat) : Reader Block := do
  Reader.next
  let name ← Reader.readName
  Reader.expect "::"
  let idle ← inner.idleStatements (← Reader.remaining) []
  checkLabel name
  let isLast := match (← Reader.current).token with
    | .finish | .word "else" | .word "elseif" | .word "end" => true
    | _ => false
  addLabel name line isLast
  return .label name :: idle

/-- Reads a jump. If its label has not been read yet, the jump is kept for the end of the block. -/
def gotoStatement : Reader Statement := do
  Reader.next
  let line := (← Reader.current).line
  let name ← Reader.readName
  unless (← Reader.draft).labels.any fun l => l.name == name do Reader.addJump name line
  return .jump name

/-- Reads a jump to the end of the loop. -/
def breakStatement (line : Nat) : Reader Statement := do
  Reader.next
  Reader.addJump loopEnd line
  return .leave

/-- Reads the last statement of a function with the values that it gives. -/
def returnStatement : Reader Statement := do
  Reader.next
  let values ← match (← Reader.current).token with
    | .finish | .word "else" | .word "elseif" | .word "end" | .word "until" | .word ";" => pure []
    | _ => do
      let (values, last) ← inner.expressions
      if !last.isMultiple then
        if values.length = 1 then discard (Reader.toPlace last)
        else discard (Reader.toNext last)
      pure values
  discard (Reader.accept ";")
  return .give values

/-! ## Tying the levels together -/

/-- Reads a statement whose parts are one level deeper. -/
def readStatement : Reader Block := do
  let l ← Reader.current
  let one (s : Reader Statement) : Reader Block := do
    return [← s]
  let b ← match l.token with
    | .word ";" => do
      Reader.next
      pure []
    | .word "if" => one (inner.ifStatement l.line)
    | .word "while" => one (inner.whileStatement l.line)
    | .word "do" => one do
      Reader.next
      return .group (← inner.blockUpTo "end" "do" l.line)
    | .word "for" => one (inner.forStatement l.line)
    | .word "repeat" => one (inner.repeatStatement l.line)
    | .word "function" => one (inner.functionStatement l.line)
    | .word "local" => one do
      Reader.next
      if ← Reader.accept "function" then inner.localFunction else inner.localStatement
    | .word "::" => inner.labelStatement l.line
    | .word "return" => one inner.returnStatement
    | .word "break" => one (breakStatement l.line)
    | .word "goto" => one gotoStatement
    | _ => one inner.expressionStatement
  Reader.releaseTemporary
  return b

/-- Reads what may have a number of levels inside one another. -/
def level : Nat → Level
  | 0 =>
    { statement := throw .tooDeep
      assignment := fun _ => throw .tooDeep
      expression := fun _ => throw .tooDeep }
  | n + 1 =>
    { statement := fun s => readStatement (level n) s
      assignment := fun targets s => readAssignment (level n) targets s
      expression := fun limit s => readExpression (level n) limit s }

/-- How many levels of statements and expressions a script can have. -/
def most : Nat := 199

end Level

/-- Reads the tokens of a script. -/
def readScript : Reader Block := do
  Reader.check (← Reader.current)
  Reader.enterBlock false
  let b ← (Level.level Level.most).statements
  match (← Reader.current).token with
  | .finish => pure ()
  | _ => Reader.complain s!"{finishQuote} expected"
  Reader.checkJumps (← Reader.draft)
  return b

/-- Reads the text of a script. -/
def Block.ofText (s : String) : Except Refusal Block :=
  let lexemes := tokens s
  (readScript.run { lexemes, left := lexemes.length }).map (·.1)

end Hotkeys.Script
