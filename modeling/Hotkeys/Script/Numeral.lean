import Hotkeys.Text.Number

/-!
# Numerals

How scripts write numbers. A decimal numeral with neither point nor exponent is an integer if it
fits 64 bits with a sign. A hexadecimal one always is: of a longer one the last 64 bits count. Every
other numeral is a floating-point number.
-/

namespace Hotkeys.Script

/-- What the text of a number in a script stands for. -/
inductive Numeral
  | integer (n : Int)
  | number (x : Float)

namespace Numeral

/-- The integer of 64 bits, sign included, that an integer is brought down to. -/
def wrap (n : Int) : Int := n.bmod UInt64.size

/-- The largest whole number. -/
def greatest : Int := Nat.pow 2 63 - 1

/-- A letter or an underscore, which names begin with. -/
def isLetter (c : Char) : Bool := c.isAlpha || c == '_'

def isHexDigit (c : Char) : Bool := (Text.hexValue? c).isSome

/-- The number that digits stand for. -/
def valueOf (base : Nat) (ds : List Char) : Nat :=
  ds.foldl (fun n c => base * n + (Text.hexValue? c).getD 0) 0

/-- The digits in front of a point, those behind it, and what follows. -/
def splitPoint (isDigit : Char → Bool) (cs : List Char) : List Char × List Char × List Char :=
  match cs.dropWhile isDigit with
  | '.' :: rest => (cs.takeWhile isDigit, rest.takeWhile isDigit, rest.dropWhile isDigit)
  | rest => (cs.takeWhile isDigit, [], rest)

/-- Reads an exponent with one of two letters in front; nothing at all is the exponent zero. -/
def exponent? (small large : Char) : List Char → Option Int
  | [] => some 0
  | c :: rest =>
    if c != small && c != large then none
    else
      let digits (cs : List Char) : Option Int :=
        if !cs.isEmpty && cs.all Char.isDigit then some (valueOf 10 cs) else none
      match rest with
      | '-' :: rest => (digits rest).map (- ·)
      | '+' :: rest => digits rest
      | rest => digits rest

/-- The floating-point number next to `n * 10 ^ e`. -/
def scaleTen (n : Nat) (e : Int) : Float :=
  if n = 0 then 0.0
  else if 400 < e then 1.0 / 0.0
  else if e + (Text.decimal n).length < -400 then 0.0
  else Float.ofScientific n (e < 0) e.natAbs

/-- Reads a decimal number. A whole one that is too large becomes a floating-point number. -/
def decimal? (cs : List Char) : Option Numeral :=
  match splitPoint Char.isDigit cs with
  | ([], [], _) => none
  | (whole, part, rest) =>
    let n := valueOf 10 whole
    if whole.length == cs.length && n ≤ greatest then some (integer n)
    else (exponent? 'e' 'E' rest).map fun e =>
      number (scaleTen (valueOf 10 (whole ++ part)) (e - part.length))

/-- Reads a hexadecimal numeral behind its sign `0x`. -/
def hexadecimal? (cs : List Char) : Option Numeral :=
  match splitPoint isHexDigit cs with
  | ([], [], _) => none
  | (whole, part, rest) =>
    if whole.length == cs.length then some (integer (wrap (valueOf 16 whole)))
    else (exponent? 'p' 'P' rest).map fun e =>
      number ((Float.ofNat (valueOf 16 (whole ++ part))).scaleB (e - 4 * part.length))

/-- Reads a numeral without a sign. -/
def read? : List Char → Option Numeral
  | '0' :: 'x' :: rest | '0' :: 'X' :: rest => hexadecimal? rest
  | cs => decimal? cs

/-- Reads a numeral, with a sign in front if there is one, that blanks may stand around. -/
def ofText? (isBlank : Char → Bool) (cs : List Char) : Option Numeral :=
  let cs := (cs.dropWhile isBlank).reverse.dropWhile isBlank |>.reverse
  match cs with
  | '-' :: rest => (read? rest).map fun
    | integer n => integer (wrap (-n))
    | number x => number (-x)
  | '+' :: rest => read? rest
  | cs => read? cs

/-- The longest text at the beginning that could be a numeral, and what follows it. The letter of an
exponent may have a sign behind it. -/
def span (letters : List Char) : Nat → List Char → List Char × List Char
  | 0, cs => ([], cs)
  | fuel + 1, cs =>
    let go (taken rest : List Char) : List Char × List Char :=
      let (more, rest) := span letters fuel rest
      (taken ++ more, rest)
    match cs with
    | [] => ([], [])
    | c :: rest =>
      if letters.contains c then
        match rest with
        | '+' :: rest => go [c, '+'] rest
        | '-' :: rest => go [c, '-'] rest
        | rest => go [c] rest
      else if isHexDigit c || c == '.' then go [c] rest
      else if isLetter c then ([c], rest)
      else ([], c :: rest)

/-- Cuts off a text that begins with a digit what could be a numeral. -/
def cut : List Char → List Char × List Char
  | '0' :: x :: rest =>
    if x == 'x' || x == 'X' then
      let (more, rest) := span ['p', 'P'] (rest.length + 1) rest
      ('0' :: x :: more, rest)
    else span ['e', 'E'] (rest.length + 3) ('0' :: x :: rest)
  | cs => span ['e', 'E'] (cs.length + 1) cs

end Numeral

end Hotkeys.Script
