import Hotkeys.Script.Token.Basic

/-!
# Strings in scripts

A string stands between quotation marks, with escapes behind backslashes, or between long brackets,
where nothing is special. Readers go on from `line` and return what they have read of the string in
reverse order, opening mark included, so that a message can quote it.
-/

namespace Hotkeys.Script

/-- What cannot be read, and the line where that shows. -/
structure Flaw where
  line : Nat
  message : String

/-- How far the reading of a string has come. -/
structure Progress where
  /-- What has been read, the last byte first. -/
  done : List UInt8
  line : Nat
  rest : List Char

namespace Progress

/-- A flaw that quotes what has been read. -/
def flaw (p : Progress) (message : String) : Flaw :=
  ⟨p.line, s!"{message} near {quoted p.done.reverse}"⟩

/-- A flaw at the end of the script. -/
def cutShort (p : Progress) (message : String) : Flaw :=
  ⟨p.line, s!"{message} near {finishQuote}"⟩

/-- A flaw that quotes what has been read and the byte behind it. -/
def flawAtNext (p : Progress) (message : String) : Flaw :=
  let next := p.rest.head?.elim [] fun c => (Text.encodeChar c).take 1
  { p with done := next ++ p.done }.flaw message

/-- Adds bytes to those that have been read. -/
def push (p : Progress) (bytes : List UInt8) : Progress :=
  { p with done := bytes.reverse ++ p.done }

/-- Takes a character in as it is. -/
def take (p : Progress) (c : Char) (rest : List Char) : Progress :=
  { p.push (Text.encodeChar c) with rest }

end Progress

def isLineEnd (c : Char) : Bool := c == '\n' || c == '\r'

/-- A blank between tokens. -/
def isSpace (c : Char) : Bool := c == ' ' || ('\t' ≤ c && c ≤ '\r')

/-- What follows a line end behind its first character: two different ones are one line end. -/
def afterLineEnd (c : Char) : List Char → List Char
  | d :: rest => if isLineEnd d && d != c then rest else d :: rest
  | [] => []

/-- Skips blanks, counting lines. -/
def skipSpaces : Nat → Nat → List Char → Nat × List Char
  | 0, line, cs => (line, cs)
  | fuel + 1, line, cs =>
    match cs with
    | [] => (line, [])
    | c :: rest =>
      if isLineEnd c then skipSpaces fuel (line + 1) (afterLineEnd c rest)
      else if isSpace c then skipSpaces fuel line rest
      else (line, c :: rest)

/-! ## Escapes -/

/-- Takes one hexadecimal digit in. -/
def takeHex (p : Progress) : Except Flaw (Nat × Progress) :=
  match p.rest with
  | c :: rest =>
    match Text.hexValue? c with
    | some d => .ok (d, p.take c rest)
    | none => .error (p.flawAtNext "hexadecimal digit expected")
  | [] => .error (p.flawAtNext "hexadecimal digit expected")

/-- The bytes that stand for a code of up to 31 bits. -/
def codeBytes (n : Nat) : List UInt8 :=
  let tail (i : Nat) : UInt8 := UInt8.ofNat (0x80 + n / Nat.pow 64 i % 64)
  if n < 0x80 then [UInt8.ofNat n]
  else if n < 0x800 then [UInt8.ofNat (0xC0 + n / 64), tail 0]
  else if n < 0x10000 then [UInt8.ofNat (0xE0 + n / Nat.pow 64 2), tail 1, tail 0]
  else if n < 0x200000 then [UInt8.ofNat (0xF0 + n / Nat.pow 64 3), tail 2, tail 1, tail 0]
  else if n < 0x4000000 then [UInt8.ofNat (0xF8 + n / Nat.pow 64 4), tail 3, tail 2, tail 1, tail 0]
  else [UInt8.ofNat (0xFC + n / Nat.pow 64 5), tail 4, tail 3, tail 2, tail 1, tail 0]

/-- Reads the digits of a code up to the closing brace. -/
def readCode (n : Nat) : Nat → Progress → Except Flaw (Nat × Progress)
  | 0, p => .error (p.flawAtNext "missing '\x7d'")
  | fuel + 1, p =>
    match p.rest with
    | c :: rest =>
      match Text.hexValue? c with
      | some d =>
        if n < Nat.pow 2 27 then readCode (16 * n + d) fuel (p.take c rest)
        else .error (p.flawAtNext "UTF-8 value too large")
      | none =>
        if c == '\x7d' then .ok (n, { p with rest }) else .error (p.flawAtNext "missing '\x7d'")
    | [] => .error (p.flawAtNext "missing '\x7d'")

/-- Reads a code in braces behind the letter of its escape. -/
def readCodeEscape (p : Progress) : Except Flaw (Nat × Progress) :=
  match p.rest with
  | '\x7b' :: rest => do
    let (d, p) ← takeHex (p.take '\x7b' rest)
    readCode d p.rest.length p
  | _ => .error (p.flawAtNext "missing '\x7b'")

/-- Reads up to three digits. -/
def readDecimalEscape (p : Progress) : Except Flaw (Nat × List Char) :=
  let digits := (p.rest.take 3).takeWhile Char.isDigit
  let n := Numeral.valueOf 10 digits
  let rest := p.rest.drop digits.length
  if n ≤ 255 then .ok (n, rest)
  else .error ({ p.push (Text.encode digits) with rest }.flawAtNext "decimal escape too large")

/-- The letters of the simple escapes and what they stand for. -/
def simpleEscapes : List (Char × UInt8) :=
  [('a', 7), ('b', 8), ('f', 12), ('n', 10), ('r', 13), ('t', 9), ('v', 11), ('\\', 92), ('"', 34),
    ('\'', 39)]

/-- Reads an escape behind its backslash. Nothing of it stays in what has been read but what it
stands for. -/
def readEscape (p : Progress) : Except Flaw Progress :=
  let started := p.push [92]
  match p.rest with
  | [] => .ok started
  | c :: rest =>
    match simpleEscapes.lookup c with
    | some b => .ok { p.push [b] with rest }
    | none =>
      if isLineEnd c then
        .ok { p.push [10] with line := p.line + 1, rest := afterLineEnd c rest }
      else if c == 'x' then do
        let (high, q) ← takeHex (started.take 'x' rest)
        let (low, q) ← takeHex q
        return { p.push [UInt8.ofNat (16 * high + low)] with rest := q.rest }
      else if c == 'u' then do
        let (n, q) ← readCodeEscape (started.take 'u' rest)
        return { p.push (codeBytes n) with rest := q.rest }
      else if c == 'z' then
        let (line, rest) := skipSpaces rest.length p.line rest
        .ok { p with line, rest }
      else if c.isDigit then do
        let (n, rest) ← readDecimalEscape started
        return { p.push [UInt8.ofNat n] with rest }
      else .error (started.flawAtNext "invalid escape sequence")

/-! ## Quoted strings and long brackets -/

/-- Reads a string up to the mark that closes it. -/
def readQuoted (mark : Char) : Nat → Progress → Except Flaw Progress
  | 0, p => .error (p.cutShort "unfinished string")
  | fuel + 1, p =>
    match p.rest with
    | [] => .error (p.cutShort "unfinished string")
    | c :: rest =>
      if c == mark then .ok (p.take c rest)
      else if isLineEnd c then .error (p.flaw "unfinished string")
      else if c == '\\' then (readEscape { p with rest }).bind (readQuoted mark fuel)
      else readQuoted mark fuel (p.take c rest)

/-- The level of a long bracket, which is the number of equals signs between its two brackets, and
what follows it. The first bracket has been read. -/
def longBracket? (bracket : Char) (cs : List Char) : Option (Nat × List Char) :=
  let level := (cs.takeWhile (· == '=')).length
  match cs.drop level with
  | c :: rest => if c == bracket then some (level, rest) else none
  | [] => none

/-- Reads up to the closing long bracket of a level. The flaw of a text that has no such bracket is
told of the line where it began. -/
def readLong (what : String) (start level : Nat) : Nat → Progress → Except Flaw Progress
  | 0, p => .error (p.cutShort s!"unfinished long {what} (starting at line {start})")
  | fuel + 1, p =>
    match p.rest with
    | [] => .error (p.cutShort s!"unfinished long {what} (starting at line {start})")
    | c :: rest =>
      if isLineEnd c then
        readLong what start level fuel
          { p.push [10] with line := p.line + 1, rest := afterLineEnd c rest }
      else if c == ']' && ((longBracket? ']' rest).any fun found => found.1 == level) then
        let q := p.push (Text.encode (']' :: rest.take (level + 1)))
        .ok { q with rest := rest.drop (level + 1) }
      else readLong what start level fuel (p.take c rest)

/-- Skips a line end that stands right behind an opening long bracket. -/
def skipFirstLineEnd (p : Progress) : Progress :=
  match p.rest with
  | c :: rest =>
    if isLineEnd c then { p with line := p.line + 1, rest := afterLineEnd c rest } else p
  | [] => p

end Hotkeys.Script
