import Hotkeys.Json.Reader

/-!
# Passing over a value of any kind

The value of a field that is not wanted is passed over. It has to keep the grammar, but its numbers
may have any size and its strings need not be valid Unicode.
-/

namespace Hotkeys.Json

/-- Passes over the inside of a string up to its closing quote. -/
def skipChars : List Char → Except Problem (List Char)
  | [] => .error (.ended .string)
  | '"' :: rest => .ok rest
  | ['\\'] => .error (.ended .string)
  | '\\' :: 'u' :: a :: b :: c :: d :: rest =>
    match hexFour? a b c d with
    | none => .error (.malformed .invalidEscape)
    | some _ => skipChars rest
  | '\\' :: 'u' :: rest => .error (shortHex rest)
  | '\\' :: c :: rest =>
    match simpleEscape? c with
    | some _ => skipChars rest
    | none => .error (.malformed .invalidEscape)
  | c :: rest =>
    if c.toNat < 0x20 then .error (.malformed .controlCharacter) else skipChars rest

/-- Passes over one or more digits. -/
def skipDigits (cs : List Char) : Except Problem (List Char) :=
  if Number.startsWithDigit cs then .ok (Number.dropDigits cs)
  else .error (.malformed .invalidNumber)

/-- Passes over the exponent of a number, behind the letter. -/
def skipExponent (cs : List Char) : Except Problem (List Char) :=
  match cs with
  | '+' :: rest => skipDigits rest
  | '-' :: rest => skipDigits rest
  | _ => skipDigits cs

/-- Passes over an exponent, if there is one. -/
def skipTail (cs : List Char) : Except Problem (List Char) :=
  match cs with
  | 'e' :: rest => skipExponent rest
  | 'E' :: rest => skipExponent rest
  | _ => .ok cs

/-- Passes over a number behind its sign. -/
def skipNumber (cs : List Char) : Except Problem (List Char) :=
  match cs with
  | [] => .error (.malformed .invalidNumber)
  | c :: rest =>
    if ¬ c.isDigit ∨ (c = '0' ∧ Number.startsWithDigit rest) then
      .error (.malformed .invalidNumber)
    else match Number.dropDigits rest with
      | '.' :: rest => (skipDigits rest).bind skipTail
      | rest => skipTail rest

/-- Reads the key of a field, up to and including the colon. -/
def skipKey (cs : List Char) : Except Problem (List Char) :=
  match dropLayout cs with
  | '"' :: rest => do
    let rest ← skipChars rest
    readColon rest
  | [] => .error (.ended .object)
  | _ => .error (.malformed .keyMustBeString)

mutual

/-- Passes over a value. The fuel bounds the number of values and commas in it. -/
def skipValue : Nat → List Char → Except Problem (List Char)
  | 0, _ => .error (.ended .value)
  | fuel + 1, cs =>
    match dropLayout cs with
    | 'n' :: rest => readLetters ['u', 'l', 'l'] rest
    | 't' :: rest => readLetters ['r', 'u', 'e'] rest
    | 'f' :: rest => readLetters ['a', 'l', 's', 'e'] rest
    | '-' :: rest => skipNumber rest
    | '"' :: rest => skipChars rest
    | '[' :: rest =>
      match dropLayout rest with
      | ']' :: rest => .ok rest
      | [] => .error (.ended .list)
      | rest => do skipItems fuel (← skipValue fuel rest)
    | '{' :: rest =>
      match dropLayout rest with
      | '}' :: rest => .ok rest
      | [] => .error (.ended .object)
      | rest => do skipFields fuel (← skipValue fuel (← skipKey rest))
    | c :: rest =>
      if c.isDigit then skipNumber (c :: rest) else .error (.malformed .expectedValue)
    | [] => .error (.ended .value)

/-- Passes over the rest of an array behind one of its elements. -/
def skipItems : Nat → List Char → Except Problem (List Char)
  | 0, _ => .error (.ended .list)
  | fuel + 1, cs =>
    match dropLayout cs with
    | ']' :: rest => .ok rest
    | ',' :: rest => do skipItems fuel (← skipValue fuel rest)
    | [] => .error (.ended .list)
    | _ => .error (.malformed .expectedListCommaOrEnd)

/-- Passes over the rest of an object behind one of its fields. -/
def skipFields : Nat → List Char → Except Problem (List Char)
  | 0, _ => .error (.ended .object)
  | fuel + 1, cs =>
    match dropLayout cs with
    | '}' :: rest => .ok rest
    | ',' :: rest => do skipFields fuel (← skipValue fuel (← skipKey rest))
    | [] => .error (.ended .object)
    | _ => .error (.malformed .expectedObjectCommaOrEnd)

end

/-- Passes over a value of any kind. -/
def skip (cs : List Char) : Except Problem (List Char) := skipValue (cs.length + 1) cs

end Hotkeys.Json
