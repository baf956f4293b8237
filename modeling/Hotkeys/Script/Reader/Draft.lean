import Hotkeys.Script.Program
import Hotkeys.Script.Token.Lexer

/-!
# Functions that are being read

While the text of a function is read, it is known which variables it has, which places for values
are in use, and which jumps have not met their label yet. The script as a whole is a function, too.
-/

namespace Hotkeys.Script

/-- Why a script cannot be read. -/
inductive Refusal
  | flaw (f : Flaw)
  /-- Too many statements and expressions stand inside one another. -/
  | tooDeep

/-- A variable whose value is known when the script is read takes no place. -/
structure Local where
  name : String
  takesPlace : Bool := true
  /-- Whether nothing can be assigned to it. -/
  isFixed : Bool := false

/-- A jump whose label has not been found yet. -/
structure Jump where
  label : String
  line : Nat
  /-- How many variables there are where the jump starts. -/
  locals : Nat

/-- A label that can be jumped to. -/
structure Label where
  name : String
  line : Nat

/-- What there was in a function when a block began. -/
structure BlockStart where
  isLoop : Bool
  locals : Nat
  labels : Nat
  jumps : Nat

/-- The label that a loop can be left by. -/
def loopEnd : String := "break"

/-- What is known of a function while it is read. -/
structure Draft where
  /-- Where the function begins; zero for the script itself. -/
  line : Nat := 0
  takesExtra : Bool := true
  /-- The variables that can be used, the latest first. -/
  locals : List Local := []
  /-- How many variables have been named that cannot be used yet. -/
  named : Nat := 0
  /-- The first place that is free. -/
  free : Nat := 0
  /-- The variables of functions around that are used. -/
  borrowed : List String := []
  labels : List Label := []
  jumps : List Jump := []
  blocks : List BlockStart := []

namespace Draft

/-- How many variables a function can have at a time. -/
def mostLocals : Nat := 200

/-- How many variables of functions around a function can use. -/
def mostBorrowed : Nat := 255

/-- How many places for values a function has. -/
def mostPlaces : Nat := 254

/-- The name by which the variables that scripts share are reached. -/
def sharedName : String := "_ENV"

/-- The first place behind those of the variables. -/
def base (d : Draft) : Nat := d.locals.countP (·.takesPlace)

/-- How a function is called in messages. -/
def title (d : Draft) : String :=
  if d.line = 0 then "main function" else s!"function at line {d.line}"

/-- The latest variable of a name. -/
def find? (d : Draft) (name : String) : Option Local := d.locals.find? fun v => v.name == name

/-- The place of a variable that can be used. -/
def placeOf (d : Draft) (name : String) : Nat :=
  ((d.locals.dropWhile fun v => v.name != name).drop 1).countP (·.takesPlace)

/-- The draft inside one more block. -/
def enterBlock (d : Draft) (isLoop : Bool) : Draft :=
  { d with blocks :=
      ⟨isLoop, d.locals.length, d.labels.length, d.jumps.length⟩ :: d.blocks }

/-- Ends the block that began last. Jumps that have not met their label go on to the block around,
those out of a loop have met it. -/
def leaveBlock (d : Draft) : Draft :=
  match d.blocks with
  | [] => d
  | b :: blocks =>
    let locals := d.locals.drop (d.locals.length - b.locals)
    let unmet := (d.jumps.drop b.jumps).filter fun j => !(b.isLoop && j.label == loopEnd)
    let carried := unmet.map fun (j : Jump) => { j with locals := b.locals }
    let d : Draft := { d with
      locals := locals
      blocks := blocks
      labels := d.labels.take b.labels
      jumps := d.jumps.take b.jumps ++ carried }
    { d with free := d.base }

/-- Has jumps of the innermost block meet a label in front of which there are some variables. A jump
from a place where one of these variables could not be used fails, with the name of the variable. -/
def meet (d : Draft) (name : String) (locals : Nat) : Except (Jump × String) Draft :=
  let first := d.blocks.head?.elim 0 (·.jumps)
  let (met, others) := (d.jumps.drop first).partition fun j => j.label == name
  match met.find? fun j => j.locals < locals with
  | some j => .error (j, ((d.locals.reverse[j.locals]?).map (·.name)).getD "")
  | none => .ok { d with jumps := d.jumps.take first ++ others }

end Draft

/-! ## Readers -/

/-- How far a script has been read, with the drafts of the functions around that place. -/
structure ReaderState where
  /-- The tokens from the current one on. -/
  lexemes : List Lexeme
  /-- How many tokens there are from the current one on. -/
  left : Nat
  /-- The line of the token before the current one. -/
  lastLine : Nat := 1
  draft : Draft := {}
  /-- The functions around, innermost first. -/
  outer : List Draft := []

/-- What reads a part of a script. The first complaint ends the reading. -/
abbrev Reader := StateT ReaderState (Except Refusal)

namespace Reader

/-- The token that is read next. -/
def current : Reader Lexeme := do
  return (← get).lexemes.headD (.ofFinish 1)

/-- Whether a word or sign is read next. -/
def isAt (s : String) : Reader Bool := do
  return (← current).token.isWord s

/-- Fails with a message about the line that has been reached. -/
def fail {α : Type} (message : String) : Reader α := do
  throw (.flaw ⟨(← current).line, message⟩)

/-- Fails with a message that quotes the current token. -/
def complain {α : Type} (message : String) : Reader α := do
  match (← current).quote with
  | some quote => fail s!"{message} near {quote}"
  | none => fail message

/-- Fails if a token is none. -/
def check (l : Lexeme) : Reader Unit :=
  match l.token with
  | .flawed message => throw (.flaw ⟨l.line, message⟩)
  | _ => pure ()

/-- Goes on to the next token. -/
def next : Reader Unit := do
  let line := (← current).line
  modify fun s => { s with lexemes := s.lexemes.drop 1, left := s.left - 1, lastLine := line }
  check (← current)

/-- The token behind the current one. -/
def peek : Reader Lexeme := do
  let l := ((← get).lexemes.drop 1).headD (.ofFinish 1)
  check l
  return l

/-- Goes on if the current token is a given one, and tells whether it is. -/
def accept (s : String) : Reader Bool := do
  if ← isAt s then
    next
    return true
  else return false

/-- Passes over a word or sign that must come next. -/
def expect (s : String) : Reader Unit := do
  unless ← accept s do complain s!"'{s}' expected"

/-- Goes on behind the token that closes what another token opened on some line. -/
def expectClosing (closing opening : String) (line : Nat) : Reader Unit := do
  unless ← accept closing do
    if (← current).line = line then complain s!"'{closing}' expected"
    else complain s!"'{closing}' expected (to close '{opening}' at line {line})"

/-- Reads a name. -/
def readName : Reader String := do
  match (← current).token with
  | .name s =>
    next
    return s
  | _ => complain "<name> expected"

/-- How many tokens are left, which bounds how often something can be repeated. -/
def remaining : Reader Nat := do
  return (← get).left + 1

/-! ## Variables -/

/-- The draft of the function that is read. -/
def draft : Reader Draft := do
  return (← get).draft

def updateDraft (f : Draft → Draft) : Reader Unit :=
  modify fun s => { s with draft := f s.draft }

/-- Complains that a function has too many of something. -/
def limit {α : Type} (what : String) (most : Nat) : Reader α := do
  complain s!"too many {what} (limit is {most}) in {(← draft).title}"

/-- Names a variable that can be used later. -/
def nameLocal : Reader Unit := do
  let d ← draft
  if Draft.mostLocals < d.locals.length + d.named + 1 then
    limit "local variables" Draft.mostLocals
  updateDraft fun d => { d with named := d.named + 1 }

/-- Makes variables that have been named usable. -/
def activate (vs : List Local) : Reader Unit :=
  updateDraft fun d =>
    { d with locals := vs.reverse ++ d.locals, named := d.named - vs.length }

/-- Notes that a function uses a variable of a function around it. -/
def borrow (d : Draft) (name : String) : Except String Draft :=
  if d.borrowed.contains name then .ok d
  else if Draft.mostBorrowed < d.borrowed.length + 1 then .error d.title
  else .ok { d with borrowed := d.borrowed ++ [name] }

/-- Looks a variable up in functions from the inside out, and notes in all functions but the one
that has it that they use it. -/
def lookUp (name : String) : List Draft → Except String (Option Local × List Draft)
  | [] => .ok (none, [])
  | d :: outer =>
    match d.find? name with
    | some v => .ok (some v, d :: outer)
    | none => do
      let (found, outer) ← lookUp name outer
      match found with
      | none => return (none, d :: outer)
      | some v => return (some v, (← if v.takesPlace then borrow d name else .ok d) :: outer)

/-- Where a variable has been declared. A function uses all variables that scripts share through one
variable that the script as a whole has. -/
def resolve (name : String) : Reader (Scope × Option Local) := do
  let s ← get
  let outcome : Except String (Scope × Option Local × List Draft) := do
    let (found, drafts) ← lookUp name (s.draft :: s.outer)
    match found with
    | some v => return (if (s.draft.find? name).isSome then .own else .outer, some v, drafts)
    | none => return (.shared, none, ← drafts.mapM fun d => borrow d Draft.sharedName)
  match outcome with
  | .error title =>
    complain s!"too many upvalues (limit is {Draft.mostBorrowed}) in {title}"
  | .ok (scope, v, drafts) =>
    set { s with draft := drafts.headD {}, outer := drafts.drop 1 }
    return (scope, v)

/-! ## Blocks and jumps -/

def enterBlock (isLoop : Bool) : Reader Unit := updateDraft (·.enterBlock isLoop)

def leaveBlock : Reader Unit := updateDraft Draft.leaveBlock

/-- Notes a jump for the end of its block. -/
def addJump (label : String) (line : Nat) : Reader Unit :=
  updateDraft fun d =>
    { d with jumps := d.jumps ++ [⟨label, line, d.locals.length⟩] }

/-- Fails if a jump of a function that ends has not met its label. -/
def checkJumps (d : Draft) : Reader Unit := do
  match d.jumps.head? with
  | none => pure ()
  | some j =>
    if j.label == loopEnd then fail s!"break outside a loop at line {j.line}"
    else fail s!"no visible label '{j.label}' for <goto> at line {j.line}"

end Reader

end Hotkeys.Script
