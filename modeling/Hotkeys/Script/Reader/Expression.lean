import Hotkeys.Script.Reader.Places

/-!
# Reading expressions

Operators are read by how strongly they bind. Expressions and statements stand inside one another,
so whatever stands one level deeper is read by a `Level` that is a parameter here.
-/

namespace Hotkeys.Script

/-- An expression and what it needs places for. -/
abbrev Reading := Expression × Operand

/-- What reads the parts of a script one level deeper. -/
structure Level where
  /-- Reads a statement; one that does nothing is no statement at all. -/
  statement : Reader Block
  /-- Reads the rest of an assignment behind some targets, the last one first. -/
  assignment : List Reading → Reader Statement
  /-- Reads an expression up to an operator that binds no more strongly than a limit. -/
  expression : Nat → Reader Reading

namespace Level

variable (inner : Level)

/-- The spellings of the operators with one operand. -/
def unaryOps : List (String × UnaryOp) :=
  [("-", .negate), ("not", .not), ("#", .length), ("~", .complement)]

/-- How strongly operators with one operand bind. -/
def unaryStrength : Nat := 12

/-- Operators with two operands, and how strongly they bind the operand in front and the one
behind. -/
def binaryOps : List (String × BinaryOp × Nat × Nat) :=
  [("or", .either, 1, 1), ("and", .both, 2, 2),
    ("<", .comparison .less, 3, 3), (">", .comparison .greater, 3, 3),
    ("<=", .comparison .lessEqual, 3, 3), (">=", .comparison .greaterEqual, 3, 3),
    ("~=", .comparison .unequal, 3, 3), ("==", .comparison .equal, 3, 3),
    ("|", .bitwise .or, 4, 4), ("~", .bitwise .exclusive, 5, 5), ("&", .bitwise .and, 6, 6),
    ("<<", .bitwise .shiftLeft, 7, 7), (">>", .bitwise .shiftRight, 7, 7),
    ("..", .concatenate, 9, 8),
    ("+", .arithmetic .add, 10, 10), ("-", .arithmetic .subtract, 10, 10),
    ("*", .arithmetic .multiply, 11, 11), ("/", .arithmetic .divide, 11, 11),
    ("//", .arithmetic .divideFloor, 11, 11), ("%", .arithmetic .modulo, 11, 11),
    ("^", .arithmetic .power, 14, 13)]

/-- The spelling of a word or sign. -/
def wordOf : Token → String
  | .word s => s
  | _ => ""

/-- Reads expressions with commas between them. All but the last one get places. -/
def readList : Nat → List Expression → Reader (List Expression × Operand)
  | 0, done => return (done.reverse, .homeless)
  | fuel + 1, done => do
    let (e, o) ← inner.expression 0
    if ← Reader.accept "," then
      discard (Reader.toNext o)
      readList fuel (e :: done)
    else return ((e :: done).reverse, o)

/-- Reads expressions with commas between them, and what the last one leaves. -/
def expressions : Reader (List Expression × Operand) := do
  inner.readList (← Reader.remaining) []

/-! ## Functions and tables -/

/-- Reads statements up to a word that ends a block. -/
def readStatements : Nat → List Block → Reader Block
  | 0, done => return done.reverse.flatten
  | fuel + 1, done => do
    match (← Reader.current).token with
    | .finish | .word "else" | .word "elseif" | .word "end" | .word "until" =>
      return done.reverse.flatten
    | .word "return" =>
      let block ← inner.statement
      return (block :: done).reverse.flatten
    | _ =>
      let block ← inner.statement
      readStatements fuel (block :: done)

/-- Reads the statements of a block. -/
def statements : Reader Block := do
  inner.readStatements (← Reader.remaining) []

/-- Reads parameters up to the closing parenthesis; the result tells whether there can be more
arguments. -/
def readParameters : Nat → List String → Reader (List String × Bool)
  | 0, done => return (done.reverse, false)
  | fuel + 1, done => do
    match (← Reader.current).token with
    | .name s =>
      Reader.next
      Reader.nameLocal
      if ← Reader.accept "," then readParameters fuel (s :: done)
      else return ((s :: done).reverse, false)
    | .word "..." =>
      Reader.next
      return (done.reverse, true)
    | _ => Reader.complain "<name> or '...' expected"

/-- Reads the parameters of a function, and whether it takes more than these. -/
def parameters : Reader (List String × Bool) := do
  if ← Reader.isAt ")" then return ([], false)
  else readParameters (← Reader.remaining) []

/-- The parameter that a method has for its object. -/
def selfName : String := "self"

/-- Reads a function from its parameters on. It gets the next place of the function around. -/
def body (isMethod : Bool) (line : Nat) : Reader (Body × Operand) := do
  modify fun s => { s with draft := { line, takesExtra := false }, outer := s.draft :: s.outer }
  Reader.enterBlock false
  Reader.expect "("
  if isMethod then
    Reader.nameLocal
    Reader.activate [{ name := selfName }]
  let (names, takesExtra) ← parameters
  Reader.activate (names.map fun name => { name })
  Reader.updateDraft fun d => { d with takesExtra }
  Reader.reserve (← Reader.draft).locals.length
  Reader.expect ")"
  let block ← inner.statements
  Reader.expectClosing "end" "function" line
  let finished ← Reader.draft
  modify fun s => { s with draft := s.outer.headD {}, outer := s.outer.drop 1 }
  let place ← Reader.toNext .homeless
  Reader.checkJumps finished
  let names := if isMethod then selfName :: names else names
  return (.body names takesExtra finished.borrowed block, .held place)

/-- Reads a key in brackets. -/
def key : Reader Reading := do
  Reader.next
  let (e, o) ← inner.expression 0
  let o ← Reader.fetch o
  Reader.expect "]"
  return (e, o)

/-- How many entries of a table without keys are kept in places before they go to the table. -/
def mostWaiting : Nat := 50

/-- Puts the last entry without a key into a place. All entries go to the table, and their places
are free again, when there are enough of them. -/
def settle (table waiting : Nat) (last : Operand) : Reader Nat := do
  discard (Reader.toNext last)
  if waiting = mostWaiting then
    Reader.updateDraft fun d => { d with free := table + 1 }
    return 0
  else return waiting

/-- Whether an entry with a key comes next. -/
def isKeyed : Reader Bool := do
  match (← Reader.current).token with
  | .name _ => return (← Reader.peek).token.isWord "="
  | t => return t.isWord "["

/-- Reads an entry of a table with its key. -/
def keyedEntry (table : Nat) : Reader Entry := do
  let free := (← Reader.draft).free
  let (k, o) ← match (← Reader.current).token with
    | .name s =>
      Reader.next
      pure (.string (Text.encode s.toList), .known none)
    | _ => inner.key
  Reader.expect "="
  discard (Reader.fieldBy table o)
  let (v, o) ← inner.expression 0
  Reader.store (.field none none) o
  Reader.updateDraft fun d => { d with free }
  return .keyed k v (← get).lastLine

/-- Reads the entries of a table up to the closing brace. The last entry without a key waits for a
place until it is known what follows. -/
def readEntries (table : Nat) : Nat → Nat → Option Operand → List Entry →
    Reader (List Entry × Option Operand)
  | 0, _, last, done => return (done.reverse, last)
  | fuel + 1, waiting, last, done => do
    if ← Reader.isAt "\x7d" then return (done.reverse, last)
    let waiting ← last.elim (pure waiting) (settle table waiting)
    let (entry, waiting, last) ← if ← isKeyed then
        pure (← inner.keyedEntry table, waiting, none)
      else do
        let (e, o) ← inner.expression 0
        pure (.next e, waiting + 1, some o)
    let goesOn ← if ← Reader.accept "," then pure true else Reader.accept ";"
    if goesOn then readEntries table fuel waiting last (entry :: done)
    else return ((entry :: done).reverse, last)

/-- Reads a table. -/
def table : Reader Reading := do
  let line := (← Reader.current).line
  let place := (← Reader.draft).free
  Reader.reserve 1
  Reader.next
  let (entries, last) ← inner.readEntries place (← Reader.remaining) 0 none []
  Reader.expectClosing "\x7d" "\x7b" line
  match last with
  | some o => unless o.isMultiple do discard (Reader.toNext o)
  | none => pure ()
  Reader.updateDraft fun d => { d with free := place + 1 }
  return (.table entries, .held place)

/-! ## Calls and fields -/

/-- Reads the arguments of the function in a place. The line is that of the first token. -/
def arguments (place : Nat) : Reader (List Expression × Nat) := do
  let l ← Reader.current
  let (args, last) ← match l.token with
    | .string s =>
      Reader.next
      pure ([.string s], some (.known none))
    | .word "\x7b" =>
      let (e, o) ← inner.table
      pure ([e], some o)
    | .word "(" =>
      Reader.next
      let (args, last) ← if ← Reader.isAt ")" then pure ([], none)
        else do
          let (args, o) ← inner.expressions
          pure (args, some o)
      Reader.expectClosing ")" "(" l.line
      pure (args, last)
    | _ => Reader.complain "function arguments expected"
  match last with
  | some o => unless o.isMultiple do discard (Reader.toNext o)
  | none => pure ()
  Reader.updateDraft fun d => { d with free := place + 1 }
  return (args, l.line)

/-- Reads the name of a variable. -/
def named : Reader Reading := do
  let name ← Reader.readName
  let (scope, v) ← Reader.resolve name
  let place := (← Reader.draft).placeOf name
  let o : Operand := match scope, v with
    | .own, some v => if v.takesPlace then .own place v.isFixed else .constant
    | .outer, some v => if v.takesPlace then .outer v.isFixed else .constant
    | _, _ => .field none none
  return (.named scope name, o)

/-- Reads a variable or an expression in parentheses. -/
def primary : Reader Reading := do
  let l ← Reader.current
  match l.token with
  | .name _ => named
  | .word "(" =>
    Reader.next
    let (e, o) ← inner.expression 0
    Reader.expectClosing ")" "(" l.line
    return (.single e, ← Reader.fetch o)
  | _ => Reader.complain "unexpected symbol"

/-- Reads the name behind a point as a field of an expression. -/
def namedField (e : Expression) (o : Operand) : Reader Reading := do
  let o ← Reader.fieldOf o
  Reader.next
  let line := (← Reader.current).line
  let name ← Reader.readName
  return (.field e (.string (Text.encode name.toList)) line, o)

/-- Reads the fields, calls and methods behind an expression. -/
def readSuffixes : Nat → Reading → Reader Reading
  | 0, r => return r
  | fuel + 1, (e, o) => do
    match (← Reader.current).token with
    | .word "." => readSuffixes fuel (← namedField e o)
    | .word "[" =>
      let table ← match o with
        | .outer _ => pure none
        | o => some <$> Reader.toPlace o
      let (k, ko) ← inner.key
      let line := (← get).lastLine
      let o ← match table with
        | some place => Reader.fieldBy place ko
        | none => pure (.field none none)
      readSuffixes fuel (.field e k line, o)
    | .word ":" =>
      Reader.next
      let name ← Reader.readName
      let place ← Reader.toMethod o
      let (args, line) ← inner.arguments place
      readSuffixes fuel (.method e name args line, .call place)
    | .word "(" | .word "\x7b" | .string _ =>
      let place ← Reader.toNext o
      let (args, line) ← inner.arguments place
      readSuffixes fuel (.call e args line, .call place)
    | _ => return (e, o)

/-- Reads an expression with the fields and calls behind it. -/
def suffixed : Reader Reading := do
  let r ← inner.primary
  inner.readSuffixes (← Reader.remaining) r

/-! ## Operators -/

/-- Reads a literal, a function, a table, or an expression with suffixes. -/
def simple : Reader Reading := do
  let l ← Reader.current
  let value (e : Expression) (o : Operand) : Reader Reading := do
    Reader.next
    return (e, o)
  match l.token with
  | .numeral n => value (.numeral n) (.known (some n))
  | .string s => value (.string s) (.known none)
  | .word "nil" => value .nil (.known none)
  | .word "true" => value (.boolean true) (.known none)
  | .word "false" => value (.boolean false) (.known none)
  | .word "..." =>
    unless (← Reader.draft).takesExtra do
      Reader.complain "cannot use '...' outside a vararg function"
    value .extra .extra
  | .word "\x7b" => inner.table
  | .word "function" =>
    Reader.next
    let (f, o) ← inner.body false (← Reader.current).line
    return (.function f, o)
  | _ => inner.suffixed

/-- Reads operators and their second operands as long as they bind more strongly than the limit. -/
def readOperators (limit : Nat) : Nat → Reading → Reader Reading
  | 0, r => return r
  | fuel + 1, (e, o) => do
    let l ← Reader.current
    match binaryOps.lookup (wordOf l.token) with
    | none => return (e, o)
    | some (op, front, behind) =>
      if front ≤ limit then return (e, o)
      else
        Reader.next
        let o ← Reader.prepare op o
        let (e', o') ← inner.expression behind
        let o ← Reader.applyBinary op o o'
        readOperators limit fuel (.binary op e e' l.line, o)

/-- Reads an expression whose parts are one level deeper. -/
def readExpression (limit : Nat) : Reader Reading := do
  let l ← Reader.current
  let r ← match unaryOps.lookup (wordOf l.token) with
    | some op =>
      Reader.next
      let (e, o) ← inner.expression unaryStrength
      pure (.unary op e l.line, ← Reader.applyUnary op o)
    | none => inner.simple
  inner.readOperators limit (← Reader.remaining) r

end Level

end Hotkeys.Script
