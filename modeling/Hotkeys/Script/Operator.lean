import Hotkeys.Script.Program
import Hotkeys.Script.Token.Quoted
import Hotkeys.Script.Value

/-!
# Operators on values

Integers have 64 bits and wrap around; other numbers are floating-point numbers. A string that reads
as a number counts as that number for arithmetic, and a number counts as its text where texts are
joined.
-/

namespace Hotkeys.Script

/-- Why an operator cannot be applied. -/
inductive Misfit
  /-- One of the operands has the wrong type. -/
  | operand (action : String) (isSecond : Bool) (kind : String)
  | comparison (a b : String)
  /-- A number would have to be an integer. -/
  | noInteger
  /-- An integer cannot be divided by zero; the sign of the operator is told. -/
  | division (sign : String)

namespace Value

variable {φ : Type}

/-- The number that a value counts as for arithmetic. -/
def numeral? : Value φ → Option Numeral
  | integer n => some (.integer n)
  | number x => some (.number x)
  | string s => Numeral.ofText? isSpace s.toList
  | _ => none

/-- The value of a number. -/
def ofNumeral : Numeral → Value φ
  | .integer n => integer n
  | .number x => number x

/-- The floating-point number closest to a number. -/
def float : Numeral → Float
  | .integer n => Float.ofInt n
  | .number x => x

/-- The integer that a number is. -/
def integer? : Numeral → Option Int
  | .integer n => some n
  | .number x =>
    let n := x.toInt64.toInt
    if sameNumber n x then some n else none

/-- The operands as numbers. -/
def numerals (action : String) (a b : Value φ) : Except Misfit (Numeral × Numeral) :=
  match a.numeral?, b.numeral? with
  | some x, some y => .ok (x, y)
  | none, _ => .error (.operand action false a.kindName)
  | some _, none => .error (.operand action true b.kindName)

/-! ## Arithmetic -/

/-- The rest of a division with the sign of the first number, exactly. -/
def remainder (a b : Float) : Float :=
  if a.isNaN || b.isNaN || a.isInf || b == 0 then 0.0 / 0.0
  else if b.isInf then a
  else
    let x := Decimal.Binary.ofBits a.toBits
    let y := Decimal.Binary.ofBits b.toBits
    let p := min x.power y.power
    let r := x.mantissa * Nat.pow 2 (x.power - p).toNat %
      (y.mantissa * Nat.pow 2 (y.power - p).toNat)
    let magnitude := (Float.ofNat r).scaleB p
    if a < 0 then -magnitude else magnitude

/-- The rest of a division with the sign of the second number. -/
def modulo (a b : Float) : Float :=
  let m := remainder a b
  if (0 < m && b < 0) || (m < 0 && 0 < b) then m + b else m

/-- The arithmetic operators. Whole numbers stay whole and wrap around, except in divisions and
powers. -/
def arithmetic (op : Arithmetic) (a b : Value φ) : Except Misfit (Value φ) := do
  let (x, y) ← numerals "perform arithmetic on" a b
  let floats (f : Float → Float → Float) : Value φ := number (f (float x) (float y))
  match op, x, y with
  | .add, .integer m, .integer n => return integer (Numeral.wrap (m + n))
  | .subtract, .integer m, .integer n => return integer (Numeral.wrap (m - n))
  | .multiply, .integer m, .integer n => return integer (Numeral.wrap (m * n))
  | .divideFloor, .integer m, .integer n =>
    if n = 0 then throw (.division "//") else return integer (Numeral.wrap (Int.fdiv m n))
  | .modulo, .integer m, .integer n =>
    if n = 0 then throw (.division "%") else return integer (Int.fmod m n)
  | .add, _, _ => return floats (· + ·)
  | .subtract, _, _ => return floats (· - ·)
  | .multiply, _, _ => return floats (· * ·)
  | .divide, _, _ => return floats (· / ·)
  | .divideFloor, _, _ => return floats fun a b => (a / b).floor
  | .modulo, _, _ => return floats modulo
  | .power, _, _ => return floats Float.pow

/-- The negative of a number. -/
def negate (a : Value φ) : Except Misfit (Value φ) :=
  match a.numeral? with
  | some (.integer n) => .ok (integer (Numeral.wrap (-n)))
  | some (.number x) => .ok (number (-x))
  | none => .error (.operand "perform arithmetic on" false a.kindName)

/-! ## Bits -/

/-- An integer as a word of 64 bits. -/
def word (n : Int) : Nat := (n % UInt64.size).toNat

/-- Shifts a word to the left, or to the right by a negative number of places. -/
def shift (w : Nat) (n : Int) : Nat :=
  if 64 ≤ n.natAbs then 0
  else if n < 0 then w >>> n.natAbs
  else w <<< n.natAbs % UInt64.size

/-- Both operands as whole numbers, which they must be able to be. -/
def words (a b : Value φ) : Except Misfit (Int × Int) := do
  let (x, y) ← numerals "perform bitwise operation on" a b
  match integer? x, integer? y with
  | some m, some n => return (m, n)
  | _, _ => throw .noInteger

/-- The operators on bits. -/
def bitwise (op : Bitwise) (a b : Value φ) : Except Misfit (Value φ) := do
  let (m, n) ← words a b
  let w := match op with
    | .and => word m &&& word n
    | .or => word m ||| word n
    | .exclusive => word m ^^^ word n
    | .shiftLeft => shift (word m) n
    | .shiftRight => shift (word m) (-n)
  return integer (Numeral.wrap w)

/-- The number with all bits turned round. -/
def complement (a : Value φ) : Except Misfit (Value φ) := do
  let (m, _) ← words a a
  return integer (-m - 1)

/-! ## Comparison -/

/-- Where a number that is not infinite lies beside an integer. -/
def compareExactly (n : Int) (x : Float) : Ordering :=
  let b := Decimal.Binary.ofBits x.toBits
  let m : Int := b.mantissa * Nat.pow 2 b.power.toNat
  compare (n * Nat.pow 2 (-b.power).toNat) (if x < 0 then -m else m)

/-- How two numbers are ordered; there is no order with a NaN. -/
def compareNumerals : Numeral → Numeral → Option Ordering
  | .integer m, .integer n => some (compare m n)
  | .integer m, .number x =>
    if x.isNaN then none
    else if x.isInf then some (if x < 0 then .gt else .lt)
    else some (compareExactly m x)
  | .number x, .integer n =>
    if x.isNaN then none
    else if x.isInf then some (if x < 0 then .lt else .gt)
    else some (compareExactly n x).swap
  | .number x, .number y =>
    if x < y then some .lt else if x == y then some .eq else if y < x then some .gt else none

/-- Compares texts byte by byte. -/
def compareBytes : List UInt8 → List UInt8 → Ordering
  | [], [] => .eq
  | [], _ :: _ => .lt
  | _ :: _, [] => .gt
  | a :: s, b :: t => if a < b then .lt else if b < a then .gt else compareBytes s t

/-- How two values are ordered, both numbers or both strings. -/
def order (a b : Value φ) : Except Misfit (Option Ordering) :=
  let number? : Value φ → Option Numeral
    | integer n => some (.integer n)
    | number x => some (.number x)
    | _ => none
  match number? a, number? b, a.bytes?, b.bytes? with
  | some x, some y, _, _ => .ok (compareNumerals x y)
  | _, _, some s, some t => .ok (some (compareBytes s t))
  | _, _, _, _ => .error (.comparison a.kindName b.kindName)

def less (a b : Value φ) : Except Misfit Bool := (order a b).map (· == some .lt)

def lessEqual (a b : Value φ) : Except Misfit Bool :=
  (order a b).map fun o => o == some .lt || o == some .eq

/-! ## Texts -/

/-- The text that a value counts as where texts are joined. -/
def joined? : Value φ → Option (List UInt8)
  | integer n => some (Text.encode (integerText n).toList)
  | number x => some (Text.encode (numberText x).toList)
  | v => v.bytes?

/-- Joins two texts; numbers count as their texts. -/
def concatenate (a b : Value φ) : Except Misfit (Value φ) :=
  match a.joined?, b.joined? with
  | some s, some t => .ok (ofBytes (s ++ t))
  | none, _ => .error (.operand "concatenate" false a.kindName)
  | some _, none => .error (.operand "concatenate" true b.kindName)

end Value

end Hotkeys.Script
