/-!
# Numbers as text

Decimal and hexadecimal digits of a natural number, and the reading of hexadecimal words.
-/

namespace Hotkeys.Text

/-- The digit of value `d`, for `d < 16`, with capital letters above nine. -/
def digitChar (d : Nat) : Char :=
  if d < 10 then Char.ofNat (48 + d) else Char.ofNat (55 + d)

/-- The value of a hexadecimal digit of either case. -/
def hexValue? (c : Char) : Option Nat :=
  if '0' ≤ c ∧ c ≤ '9' then some (c.toNat - 48)
  else if 'a' ≤ c ∧ c ≤ 'f' then some (c.toNat - 87)
  else if 'A' ≤ c ∧ c ≤ 'F' then some (c.toNat - 55)
  else none

/-- The digits of `n` to the given base, most significant first; zero has one digit. -/
def digits (base : Nat) (h : 1 < base) (n : Nat) : List Char :=
  if hn : n < base then [digitChar n]
  else
    have : n / base < n := Nat.div_lt_self (by omega) h
    digits base h (n / base) ++ [digitChar (n % base)]
termination_by n

/-- The decimal digits of a number. -/
def decimal (n : Nat) : List Char := digits 10 (by decide) n

/-- Capital hexadecimal digits. -/
def hexadecimal (n : Nat) : List Char := digits 16 (by decide) n

/-- Capital hexadecimal digits, at least two of them. -/
def hexPadded (n : Nat) : List Char :=
  let ds := hexadecimal n
  if ds.length < 2 then '0' :: ds else ds

/-- The value of a string of hexadecimal digits. -/
def hexNumber? (cs : List Char) : Option Nat :=
  cs.foldlM (fun n c => (hexValue? c).map (16 * n + ·)) 0

/-- Reads a 32-bit word in hexadecimal. One plus sign may stand in front; there must be a digit,
and the value must fit. -/
def word32OfHex? (cs : List Char) : Option UInt32 :=
  let ds := match cs with
    | '+' :: r => r
    | _ => cs
  if ds.isEmpty then none
  else (hexNumber? ds).bind fun n => if n < UInt32.size then some (UInt32.ofNat n) else none

end Hotkeys.Text
