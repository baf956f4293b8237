import Hotkeys.Script.Evaluator.Basic

/-!
# The functions that are there from the beginning

Arguments that are missing are `nil`, except where a function has to be given one.
-/

namespace Hotkeys.Script

namespace Builtin

variable {φ : Type}

/-- Values in a row, as calls take and give them. -/
abbrev Values (φ : Type) := List (Value (Callable φ))

/-- Fails because of the argument at a position. -/
def refuse {α : Type} (callers : List (Option Position)) (position : Nat) (name reason : String) :
    Run φ α :=
  Run.failIn callers s!"bad argument #{position} to '{name}' ({reason})"

/-- The argument at a position, which must not be missing. -/
def wanted (callers : List (Option Position)) (name : String) (args : Values φ) (position : Nat) :
    Run φ (Value (Callable φ)) :=
  match args[position - 1]? with
  | some v => return v
  | none => refuse callers position name "value expected"

/-- The number of the table that the first argument is. -/
def wantedTable (callers : List (Option Position)) (name : String) (args : Values φ) :
    Run φ Nat :=
  match args.head? with
  | some (.table n) => return n
  | some v => refuse callers 1 name s!"table expected, got {v.kindName}"
  | none => refuse callers 1 name "table expected, got no value"

/-- A value as a string; a string is one already. -/
def asString (v : Value (Callable φ)) : Run φ (Value (Callable φ)) := do
  match v with
  | .string _ | .bytes _ _ => return v
  | v => return .string ((← get).textOf v)

/-- A number, or a text that can be read as one. -/
def asNumber : Value (Callable φ) → Value (Callable φ)
  | .integer n => .integer n
  | .number x => .number x
  | v => (v.numeral?).elim .nil .ofNumeral

/-- Raises a value. A text gets the place of one of the calls under way in front, by its level. -/
def raise {α : Type} (callers : List (Option Position)) (args : Values φ) : Run φ α :=
  let level := match argument args 2 with
    | .integer n => n.toNat
    | .nil => 1
    | _ => 0
  match argument args 1, level with
  | .string s, level + 1 => Run.failIn (callers.drop level) s
  | v, _ => throw v

/-- The arguments from a position on, or their number. -/
def choose (callers : List (Option Position)) (args : Values φ) : Run φ (Values φ) :=
  let rest := args.drop 1
  match argument args 1 with
  | .string "#" => return [.integer rest.length]
  | v =>
    match v.numeral?.bind Value.integer? with
    | some n =>
      if 0 < n then return rest.drop (n.toNat - 1)
      else if n < 0 && n.natAbs ≤ rest.length then return rest.drop (rest.length - n.natAbs)
      else refuse callers 1 "select" "index out of range"
    | none => refuse callers 1 "select" s!"number expected, got {v.kindName}"

/-- The key and the value behind a key of a table. -/
def step (callers : List (Option Position)) (n : Nat) (k : Value (Callable φ)) :
    Run φ (Values φ) := do
  match ((← get).fields n).next? Interpreter.same k with
  | none => Run.failIn callers "invalid key to 'next'"
  | some none => return [.nil]
  | some (some (k, v)) => return [k, v]

/-- The field of a table; whatever else it is asked of has none. -/
def fieldOf (v k : Value (Callable φ)) : Run φ (Value (Callable φ)) := do
  match v with
  | .table n => return (← get).getField n k
  | _ => return .nil

/-- Calls a builtin function. -/
def call (inner : Evaluator φ) (b : Builtin) (callers : List (Option Position)) (args : Values φ) :
    Run φ (Values φ) := do
  match b with
  | .library f =>
    let v ← Run.attempt fun i env => i.callFunction env f args
    return [v]
  | .method m => Run.attempt fun i env => i.callMethod env (argument args 1) m
  | .note =>
    let label := (← get).textOf (argument args 1)
    modify fun i => { i with notes := i.notes ++ [⟨label, argument args 2⟩] }
    return []
  | .print =>
    let i ← get
    set { i with printed := i.printed ++ ["\t".intercalate (args.map i.textOf)] }
    return []
  | .type => return [.string (← wanted callers "type" args 1).kindName]
  | .toString => return [← asString (← wanted callers "tostring" args 1)]
  | .toNumber => return [asNumber (← wanted callers "tonumber" args 1)]
  | .assert =>
    if (← wanted callers "assert" args 1).isTrue then return args
    else throw (args.getD 1 (.string "assertion failed!"))
  | .error => raise callers args
  | .guard =>
    let f ← wanted callers "pcall" args 1
    tryCatch (do return .boolean true :: (← inner.call (none :: callers) f (args.drop 1)))
      fun v => return [.boolean false, v]
  | .select => choose callers args
  | .next => step callers (← wantedTable callers "next" args) (argument args 2)
  | .pairs =>
    return [.function (.builtin .next), ← wanted callers "pairs" args 1, .nil]
  | .sequence =>
    return [.function (.builtin .sequenceStep), ← wanted callers "ipairs" args 1, .integer 0]
  | .sequenceStep =>
    let n ← wantedTable callers "for iterator" args
    match argument args 2 with
    | .integer k =>
      let v := (← get).getField n (.integer (k + 1))
      return if v.isNil then [.nil] else [.integer (k + 1), v]
    | _ => return [.nil]
  | .rawGet => return [← fieldOf (.table (← wantedTable callers "rawget" args)) (argument args 2)]
  | .rawSet =>
    let n ← wantedTable callers "rawset" args
    modify fun i => i.setField n (argument args 2) (argument args 3)
    return [.table n]
  | .rawEqual =>
    return [.boolean (Interpreter.same (argument args 1) (argument args 2))]
  | .rawLength =>
    match argument args 1 with
    | .table n => return [.integer ((← get).fields n).length]
    | v =>
      match v.bytes? with
      | some s => return [.integer s.length]
      | none => refuse callers 1 "rawlen" "table or string expected"
  | .collect =>
    match argument args 1 with
    | .nil | .string "collect" =>
      let env ← read
      modify fun i => i.collectOnce env i.values.toList
    | _ => pure ()
    return [.integer 0]

end Builtin

end Hotkeys.Script
