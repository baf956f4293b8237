import Hotkeys.Decimal.Basic
import Hotkeys.Json.Problem

/-!
# Reading JSON numbers

A number without point and exponent is an integer if it fits 64 bits, counting the sign. Every
other number is a floating-point number, worked out from its first digits that fit 64 bits and a
power of ten.
-/

namespace Hotkeys.Json

/-- What the text of a number stands for. Whole numbers that fit 64 bits are exact, all others are
floating-point numbers. -/
inductive Number
  | natural (n : Nat)
  /-- A number below zero, by its magnitude. -/
  | negative (n : Nat)
  | float (f : Float)

/-- How a message calls a number that is out of place. -/
def Number.found : Number → Found
  | natural n => .integer n
  | negative n => .integer (-n)
  | float f => .float (Decimal.shortestText f)

namespace Number

/-- The value of a decimal digit. -/
def digitValue (c : Char) : Nat := c.toNat - 48

def startsWithDigit : List Char → Bool
  | c :: _ => c.isDigit
  | [] => false

def dropDigits (cs : List Char) : List Char := cs.dropWhile Char.isDigit

/-- Takes digits in as long as the number fits 64 bits. -/
def absorb (n : Nat) : List Char → Nat × List Char
  | [] => (n, [])
  | c :: rest =>
    if c.isDigit ∧ 10 * n + digitValue c < UInt64.size then absorb (10 * n + digitValue c) rest
    else (n, c :: rest)

/-- The value of `f * 10 ^ e`; none if it is too large. Powers beyond `1e308` are taken in steps. -/
def scale : Nat → Float → Int → Option Float
  | 0, f, _ => some f
  | fuel + 1, f, e =>
    if e.natAbs ≤ 308 then
      let power := Float.ofScientific 1 false e.natAbs
      if 0 ≤ e then
        let g := f * power
        if g.isInf then none else some g
      else some (f / power)
    else if f == 0 then some f
    else if 0 ≤ e then none
    else scale fuel (f / Float.ofScientific 1 false 308) (e + 308)

/-- The number `n * 10 ^ e` with its sign, unless it is too large for a floating-point number. -/
def ofParts (positive : Bool) (n : Nat) (e : Int) (rest : List Char) :
    Except Problem (Number × List Char) :=
  match scale 8 (Float.ofNat n) e with
  | none => .error (.malformed .numberOutOfRange)
  | some f => .ok (float (if positive then f else -f), rest)

/-- Reads what follows the letter of an exponent. -/
def readExponent (positive : Bool) (n : Nat) (e : Int) (cs : List Char) :
    Except Problem (Number × List Char) :=
  let (up, cs) := match cs with
    | '+' :: r => (true, r)
    | '-' :: r => (false, r)
    | _ => (true, cs)
  match cs with
  | [] => .error (.ended .value)
  | c :: _ =>
    if c.isDigit then
      let size := (cs.takeWhile Char.isDigit).foldl (fun k d => 10 * k + digitValue d) 0
      if size < Nat.pow 2 31 then
        ofParts positive n (if up then e + size else e - size) (dropDigits cs)
      else if n ≠ 0 ∧ up then .error (.malformed .numberOutOfRange)
      else .ok (float (if positive then 0.0 else -0.0), dropDigits cs)
    else .error (.malformed .invalidNumber)

/-- Reads what follows the digits that have been taken in. -/
def readTail (positive : Bool) (n : Nat) (e : Int) (cs : List Char) :
    Except Problem (Number × List Char) :=
  match cs with
  | 'e' :: rest => readExponent positive n e rest
  | 'E' :: rest => readExponent positive n e rest
  | _ => ofParts positive n e cs

/-- Reads what follows a point. -/
def readFraction (positive : Bool) (n : Nat) (e : Int) (cs : List Char) :
    Except Problem (Number × List Char) :=
  let (n', rest) := absorb n cs
  let taken := cs.length - rest.length
  if startsWithDigit rest then readTail positive n' (e - taken) (dropDigits rest)
  else if taken = 0 then
    .error (if rest.isEmpty then .ended .value else .malformed .invalidNumber)
  else readTail positive n' (e - taken) rest

/-- Reads a number behind its sign. -/
def read (positive : Bool) (cs : List Char) : Except Problem (Number × List Char) :=
  match cs with
  | [] => .error (.ended .value)
  | c :: rest =>
    if c = '0' ∧ startsWithDigit rest then .error (.malformed .invalidNumber)
    else if ¬ c.isDigit then .error (.malformed .invalidNumber)
    else
      let (n, rest) := if c = '0' then (0, rest) else absorb (digitValue c) rest
      let more := rest.length - (dropDigits rest).length
      match dropDigits rest with
      | '.' :: r => readFraction positive n more r
      | 'e' :: r => readExponent positive n more r
      | 'E' :: r => readExponent positive n more r
      | r =>
        if more ≠ 0 then ofParts positive n more r
        else if positive then .ok (natural n, r)
        else if 0 < n ∧ n ≤ Nat.pow 2 63 then .ok (negative n, r)
        else .ok (float (-(Float.ofNat n)), r)

end Number

end Hotkeys.Json
