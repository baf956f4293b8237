import Hotkeys.Text.Number

/-!
# Decimals that stand for floating-point numbers

A positive finite number is `mantissa * 2 ^ power`. It is brought into decimal form in two ways:
with the fewest digits that are still read back as the same number, and with a fixed number of
digits. Both are computed exactly, on natural numbers.
-/

namespace Hotkeys

/-- The number `digits * 10 ^ exponent`. -/
structure Decimal where
  digits : Nat
  exponent : Int
  deriving DecidableEq, Repr

namespace Decimal

/-- A positive finite number in binary. The flag `thin` holds where the next smaller number is
only half a step away. -/
structure Binary where
  mantissa : Nat
  power : Int
  thin : Bool
  deriving Repr

/-- The binary form of the magnitude of a finite number. -/
def Binary.ofBits (bits : UInt64) : Binary :=
  let field := (bits >>> 52).toNat % 2048
  let unit := Nat.pow 2 52
  let fraction := bits.toNat % unit
  if field = 0 then { mantissa := fraction, power := -1074, thin := false }
  else { mantissa := fraction + unit, power := field - 1075, thin := fraction = 0 && 1 < field }

/-- The number as a quotient of natural numbers, four times as fine as its mantissa, so that the
borders of the interval that is read back as it are whole. -/
def Binary.quarters (b : Binary) : Nat × Nat :=
  let p := b.power - 2
  (Nat.pow 2 p.toNat, Nat.pow 2 (-p).toNat)

/-- Multiplies the quotient `num / den` by a power of ten. -/
def scaleTen (num den : Nat) (e : Int) : Nat × Nat :=
  (num * Nat.pow 10 e.toNat, den * Nat.pow 10 (-e).toNat)

/-- The least `k` with `num / den < 10 ^ k`, searched upwards from a given start. -/
def magnitudeFrom (num den : Nat) : Nat → Int → Int
  | 0, k => k
  | fuel + 1, k =>
    let (n, d) := scaleTen num den (-k)
    if n < d then k else magnitudeFrom num den fuel (k + 1)

/-- The number of digits in front of the point, or minus the number of zeros behind it. -/
def magnitude (num den : Nat) : Int := magnitudeFrom num den 700 (-340)

/-- The decimal with `n` digits that lies in the interval of the number and is closest to it; a half
goes to the even neighbour. -/
def closest? (b : Binary) (k : Int) (n : Nat) : Option Decimal :=
  let (unit, den) := b.quarters
  let e := k - n
  let (num, den) := scaleTen unit den (-e)
  let value := 4 * b.mantissa * num
  let low := (4 * b.mantissa - if b.thin then 1 else 2) * num
  let high := (4 * b.mantissa + 2) * num
  let even := b.mantissa % 2 == 0
  let inside (d : Nat) : Bool :=
    if even then low ≤ d * den && d * den ≤ high else low < d * den && d * den < high
  let below := value / den
  let above := below + 1
  let rest := 2 * (value % den)
  let nearerBelow := rest < den || (rest == den && below % 2 == 0)
  if inside below && (nearerBelow || !inside above) then some ⟨below, e⟩
  else if inside above then some ⟨above, e⟩
  else none

/-- The decimal with the fewest digits that is read back as the given positive number. -/
def shortest (b : Binary) : Decimal :=
  let (unit, den) := b.quarters
  let k := magnitude (4 * b.mantissa * unit) den
  ((List.range 17).findSome? fun i => closest? b k (i + 1)).getD ⟨0, 0⟩

/-- The positive number to `n` digits; a half goes to the even neighbour. -/
def rounded (n : Nat) (b : Binary) : Decimal :=
  let (unit, den) := b.quarters
  let k := magnitude (4 * b.mantissa * unit) den
  let e := k - n
  let (num, den) := scaleTen (4 * b.mantissa * unit) den (-e)
  let below := num / den
  let rest := 2 * (num % den)
  let d := if rest > den || (rest == den && below % 2 == 1) then below + 1 else below
  if d = Nat.pow 10 n then ⟨d / 10, e + 1⟩ else ⟨d, e⟩

/-- Takes zeros off the end of the digits. -/
def stripZeros : Nat → Decimal → Decimal
  | 0, d => d
  | fuel + 1, d =>
    if d.digits ≠ 0 ∧ d.digits % 10 = 0 then stripZeros fuel ⟨d.digits / 10, d.exponent + 1⟩
    else d

/-- A run of zeros. -/
def zeros (n : Nat) : List Char := List.replicate n '0'

/-- Positional notation, without a point where nothing follows it. -/
def positional (d : Decimal) : List Char :=
  let ds := Text.decimal d.digits
  if 0 ≤ d.exponent then ds ++ zeros d.exponent.toNat
  else
    let point : Int := ds.length + d.exponent
    if 0 < point then ds.take point.toNat ++ '.' :: ds.drop point.toNat
    else '0' :: '.' :: (zeros (-point).toNat ++ ds)

/-- One digit in front of the point; the exponent is left to the caller. -/
def significand (d : Decimal) : List Char :=
  match Text.decimal d.digits with
  | c :: c' :: rest => c :: '.' :: c' :: rest
  | ds => ds

/-- The exponent that belongs to `significand`. -/
def scientificExponent (d : Decimal) : Int := (Text.decimal d.digits).length + d.exponent - 1

end Decimal

/-- The shortest text of a floating-point number. It is positional, with at least one digit on both
sides of the point, from `1e-5` up to but not including `1e16`; beyond, it has an exponent with a
sign. -/
def Decimal.shortestText (f : Float) : String :=
  let sign := if f.toBits >>> 63 == 1 then ['-'] else []
  let b := Binary.ofBits f.toBits
  if b.mantissa = 0 then String.ofList (sign ++ ['0', '.', '0'])
  else
    let d := (shortest b).stripZeros 20
    let point := d.scientificExponent + 1
    let body :=
      if 0 ≤ d.exponent ∧ point ≤ 16 then d.positional ++ ['.', '0']
      else if -5 < point ∧ point ≤ 16 then d.positional
      else
        let e := d.scientificExponent
        d.significand ++ 'e' :: (if e < 0 then '-' else '+') :: Text.decimal e.natAbs
    String.ofList (sign ++ body)

/-! ## Numbers with a given number of digits -/

namespace Decimal

/-- The text of an exponent, with its sign and at least two digits. -/
def exponentText (e : Int) : List Char :=
  let ds := Text.decimal e.natAbs
  'e' :: (if e < 0 then '-' else '+') :: (if ds.length < 2 then '0' :: ds else ds)

/-- A floating-point number to `n` digits without needless zeros. It is positional if its exponent
is at least -4 and below `n`. -/
def generalText (n : Nat) (f : Float) : List Char :=
  let sign := if f.toBits >>> 63 == 1 then ['-'] else []
  if f.isNaN then sign ++ ['n', 'a', 'n']
  else if f.isInf then sign ++ ['i', 'n', 'f']
  else
    let b := Binary.ofBits f.toBits
    if b.mantissa = 0 then sign ++ ['0']
    else
      let d := (rounded n b).stripZeros n
      let e := d.scientificExponent
      if -4 ≤ e ∧ e < n then sign ++ d.positional
      else sign ++ d.significand ++ exponentText e

end Decimal

end Hotkeys
