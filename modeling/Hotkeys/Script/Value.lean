import Hotkeys.Decimal.Basic
import Hotkeys.Script.Exception

/-!
# Values of scripts

The values that a script works with, passes to the hotkey library and gets back from it. `φ` is the
type of functions, which the library keeps and hands on without looking into them. Tables and hotkey
objects are values by their numbers; what they hold is kept elsewhere.
-/

namespace Hotkeys.Script

/-- A value of a script. -/
inductive Value (φ : Type)
  | nil
  | boolean (b : Bool)
  | integer (n : Int)
  | number (x : Float)
  | string (s : String)
  /-- A string whose bytes are no text. -/
  | bytes (fault : Text.Utf8Fault) (content : List UInt8)
  | table (number : Nat)
  | function (f : φ)
  | hotkey (object : Nat)
  /-- An error of the library. -/
  | failure (e : Exception)
  /-- An object of another kind. -/
  | foreign
  deriving Inhabited

namespace Value

variable {φ : Type}

/-- The string with the given bytes. -/
def ofBytes (content : List UInt8) : Value φ :=
  match Text.decode content with
  | .ok s => string s
  | .error fault => bytes fault content

/-- The bytes of a string. -/
def bytes? : Value φ → Option (List UInt8)
  | string s => some (Text.encode s.toList)
  | bytes _ content => some content
  | _ => none

/-- The name of the type of a value as hosts see it. -/
def typeName : Value φ → String
  | nil => "nil"
  | boolean _ => "boolean"
  | integer _ => "integer"
  | number _ => "number"
  | string _ | bytes _ _ => "string"
  | table _ => "table"
  | function _ => "function"
  | failure _ => "error"
  | hotkey _ | foreign => "userdata"

/-- The name of the type of a value as scripts see it, where all numbers are of one type. -/
def kindName : Value φ → String
  | integer _ => "number"
  | failure _ => "userdata"
  | v => v.typeName

/-- The text of a whole number. -/
def integerText (n : Int) : String :=
  String.ofList (if n < 0 then '-' :: Text.decimal n.natAbs else Text.decimal n.natAbs)

/-- A number has fourteen digits at most, and a point if it would look like an integer. The NaN that
operations give has a sign. -/
def numberText (x : Float) : String :=
  let cs := if x.isNaN then ['-', 'n', 'a', 'n'] else Decimal.generalText 14 x
  String.ofList (if cs.all fun c => c.isDigit || c == '-' then cs ++ ['.', '0'] else cs)

def isNil : Value φ → Bool
  | nil => true
  | _ => false

/-- What conditions take for true. -/
def isTrue : Value φ → Bool
  | nil | boolean false => false
  | _ => true

/-- The part of a list in front of its first `nil`. -/
def sequence (items : List (Value φ)) : List (Value φ) := items.takeWhile fun v => !v.isNil

/-- Whether an integer and a number are exactly equal. -/
def sameNumber (n : Int) (x : Float) : Bool :=
  let b := Decimal.Binary.ofBits x.toBits
  let negative := x.toBits >>> 63 == 1
  !(x.isNaN || x.isInf) &&
    b.mantissa * Nat.pow 2 b.power.toNat == n.natAbs * Nat.pow 2 (-b.power).toNat &&
    (n == 0 || negative == decide (n < 0))

/-- Whether a number is next to an integer, which is how hosts compare the two. -/
def nextNumber (n : Int) (x : Float) : Bool := Float.ofInt n == x

/-- Equality of values by equalities of what they hold: of an integer and a number, of functions and
of hotkey objects. -/
def equal (numbers : Int → Float → Bool) (functions : φ → φ → Bool) (objects : Nat → Nat → Bool) :
    Value φ → Value φ → Bool
  | nil, nil => true
  | boolean a, boolean b => a == b
  | integer a, integer b => a == b
  | number a, number b => a == b
  | integer a, number b => numbers a b
  | number a, integer b => numbers b a
  | string a, string b => a == b
  | bytes _ a, bytes _ b => a == b
  | table m, table n => m == n
  | function f, function g => functions f g
  | hotkey m, hotkey n => objects m n
  | _, _ => false

end Value

end Hotkeys.Script
