import Hotkeys.Script.Evaluator.Builtin

/-!
# Values of expressions

Every expression has a list of values. Where one value is wanted it is the first one, or `nil`.
Operands and arguments are worked out from left to right.
-/

namespace Hotkeys.Script

/-- How messages tell where a value comes from. -/
def Expression.origin : Expression → String
  | .named .own name => s!" (local '{name}')"
  | .named .outer name => s!" (upvalue '{name}')"
  | .named .shared name => s!" (global '{name}')"
  | .field _ (.string s) _ => s!" (field '{Text.mended s}')"
  | .field _ (.numeral (.integer _)) _ => " (field 'integer index')"
  | .field _ _ _ => " (field '?')"
  | .method _ name _ _ => s!" (method '{name}')"
  | .single e => e.origin
  | _ => ""

namespace Evaluator

variable {φ : Type} (inner : Evaluator φ)

/-- The one value of an expression. -/
def one (x : Frame φ) (e : Expression) : Run φ (Value (Callable φ)) := do
  return (← inner.values x e).headD .nil

/-- The values of expressions, of which only the last one has more than one. -/
def list (x : Frame φ) : List Expression → Run φ (List (Value (Callable φ)))
  | [] => return []
  | [e] => inner.values x e
  | e :: rest => do
    let v ← inner.one x e
    return v :: (← list x rest)

/-- The value of a field; `e` is where the table comes from. -/
def index (x : Frame φ) (line : Nat) (e : Expression) (v k : Value (Callable φ)) :
    Run φ (Value (Callable φ)) := do
  match v, k with
  | .table n, k => return (← get).getField n k
  | .hotkey _, .string s =>
    match Method.all.find? fun m => m.name == s with
    | some m => return .function (.builtin (.method m))
    | none => return .nil
  | .hotkey _, _ | .string _, _ | .bytes _ _, _ => return .nil
  | v, _ => x.fail line s!"attempt to index a {v.kindName} value{e.origin}"

/-- Calls what should be a function; `origin` tells where it comes from. -/
def apply (x : Frame φ) (line : Nat) (origin : String) (f : Value (Callable φ))
    (args : List (Value (Callable φ))) : Run φ (List (Value (Callable φ))) :=
  match f with
  | .function _ => inner.call (x.position line :: x.callers) f args
  | v => x.fail line s!"attempt to call a {v.kindName} value{origin}"

/-- Goes on with what an operator gives, or fails. -/
def settle {α : Type} (x : Frame φ) (line : Nat) (a b : Expression) (r : Except Misfit α) :
    Run φ α :=
  match r with
  | .ok v => return v
  | .error (.operand action isSecond kind) =>
    let origin := if kind == "string" then "" else (if isSecond then b else a).origin
    x.fail line s!"attempt to {action} a {kind} value{origin}"
  | .error (.comparison a b) =>
    if a == b then x.fail line s!"attempt to compare two {a} values"
    else x.fail line s!"attempt to compare {a} with {b}"
  | .error .noInteger => x.fail line "number has no integer representation"
  | .error (.division sign) =>
    let shown := if sign == "%" then "%%" else sign
    x.fail line s!"attempt to perform 'n{shown}0'"

/-- Compares two values. Only numbers with numbers and texts with texts have an order. -/
def compare (x : Frame φ) (line : Nat) (op : Comparison) (e e' : Expression)
    (a b : Value (Callable φ)) : Run φ Bool := do
  match op with
  | .equal => return (← get).equal Value.sameNumber a b
  | .unequal => return !(← get).equal Value.sameNumber a b
  | .less => settle x line e e' (a.less b)
  | .lessEqual => settle x line e e' (a.lessEqual b)
  | .greater => settle x line e' e (b.less a)
  | .greaterEqual => settle x line e' e (b.lessEqual a)

/-- The value of an expression with two operands. The second one is not looked at where the first
one decides. -/
def binary (x : Frame φ) (line : Nat) (op : BinaryOp) (e e' : Expression) :
    Run φ (Value (Callable φ)) := do
  let a ← inner.one x e
  match op with
  | .both => if a.isTrue then inner.one x e' else return a
  | .either => if a.isTrue then return a else inner.one x e'
  | op =>
    let b ← inner.one x e'
    match op with
    | .arithmetic op => settle x line e e' (Value.arithmetic op a b)
    | .bitwise op => settle x line e e' (Value.bitwise op a b)
    | .concatenate => settle x line e e' (a.concatenate b)
    | .comparison op => return .boolean (← compare x line op e e' a b)
    | _ => return b

/-- The value of an expression with one operand. -/
def unary (x : Frame φ) (line : Nat) (op : UnaryOp) (e : Expression) :
    Run φ (Value (Callable φ)) := do
  let a ← inner.one x e
  match op with
  | .not => return .boolean (!a.isTrue)
  | .negate => settle x line e e a.negate
  | .complement => settle x line e e a.complement
  | .length =>
    match a, a.bytes? with
    | .table n, _ => return .integer ((← get).fields n).length
    | _, some s => return .integer s.length
    | a, none => x.fail line s!"attempt to get length of a {a.kindName} value{e.origin}"

/-- Fails if a value can be no key of a table. -/
def checkKey (x : Frame φ) (line : Nat) (k : Value (Callable φ)) : Run φ Unit :=
  match k with
  | .nil => x.fail line "index is nil"
  | .number f => if f.isNaN then x.fail line "index is NaN" else pure ()
  | _ => pure ()

/-- Adds the entries of a table. Those without a key are numbered; the last one may have many
values. -/
def addEntries (x : Frame φ) : List Entry → Nat → Fields (Callable φ) → Run φ (Fields (Callable φ))
  | [], _, f => return f
  | .keyed k v line :: rest, n, f => do
    let k ← inner.one x k
    let v ← inner.one x v
    checkKey x line k
    addEntries x rest n (f.set Interpreter.same k v)
  | [.next e], n, f => do
    let vs ← inner.values x e
    return (vs.mapIdx fun i v => (i, v)).foldl
      (fun f e => f.set Interpreter.same (.integer ((n + 1 + e.1 : Nat) : Int)) e.2) f
  | .next e :: rest, n, f => do
    let v ← inner.one x e
    addEntries x rest (n + 1) (f.set Interpreter.same (.integer ((n + 1 : Nat) : Int)) v)

/-- A new function with the variables that it uses. -/
def newFunction (x : Frame φ) (f : Body) : Run φ (Value (Callable φ)) :=
  let .body _ _ borrowed _ := f
  let names := borrowed.filterMap fun name => (x.names.lookup name).map (name, ·)
  modifyGet fun i =>
    (.function (.closure i.closures.size),
      { i with closures := i.closures.push { title := x.title, body := f, names } })

/-- The value of a variable. -/
def variableValue (x : Frame φ) (name : String) : Run φ (Value (Callable φ)) := do
  match x.names.lookup name with
  | some n => return (← get).values.getD n .nil
  | none => return (← get).global name

/-- The values of an expression whose parts are one level deeper. -/
def evaluate (x : Frame φ) (e : Expression) : Run φ (List (Value (Callable φ))) := do
  match e with
  | .nil => return [.nil]
  | .boolean b => return [.boolean b]
  | .numeral n => return [.ofNumeral n]
  | .string s => return [.ofBytes s]
  | .extra => return x.extra
  | .function f => return [← newFunction x f]
  | .named _ name => return [← variableValue x name]
  | .field t k line =>
    let v ← inner.one x t
    let key ← inner.one x k
    return [← index x line t v key]
  | .call f args line =>
    let v ← inner.one x f
    inner.apply x line f.origin v (← inner.list x args)
  | .method object name args line =>
    let v ← inner.one x object
    let f ← index x line object v (.string name)
    inner.apply x line e.origin f (v :: (← inner.list x args))
  | .table entries =>
    let f ← inner.addEntries x entries 0 {}
    return [← modifyGet fun i => i.addTable f]
  | .unary op e line => return [← inner.unary x line op e]
  | .binary op a b line => return [← inner.binary x line op a b]
  | .single e => return [← inner.one x e]

/-- Calls a function whose parts are one level deeper. -/
def callFunction (callers : List (Option Position)) (f : Value (Callable φ))
    (args : List (Value (Callable φ))) : Run φ (List (Value (Callable φ))) := do
  match f with
  | .function (.closure n) =>
    match (← get).closures[n]? with
    | none => return []
    | some c =>
      let .body parameters takesExtra _ block := c.body
      let names ← Run.declare parameters args c.names
      let extra := if takesExtra then args.drop parameters.length else []
      match ← inner.block { title := c.title, names, extra, callers } block with
      | .give vs => return vs
      | _ => return []
  | .function (.builtin b) => Builtin.call inner b callers args
  | v => Run.failIn callers s!"attempt to call a {v.kindName} value"

end Evaluator

end Hotkeys.Script
