import Hotkeys.Json.Number
import Hotkeys.Text.Basic
import Hotkeys.Text.Utf8

/-!
# Reading JSON values

A reader takes what it wants from the front of a text and leaves the rest. It stops at the first
problem, so that a value of the wrong kind is reported even where the text breaks off behind it.
-/

namespace Hotkeys.Json

/-- A reader of values of type `α`: the value and the rest of the text, or the first problem. -/
abbrev Reader (α : Type) := List Char → Except Problem (α × List Char)

/-- Whether a character may stand between two tokens. -/
def isLayout (c : Char) : Bool := c == ' ' || c == '\n' || c == '\t' || c == '\r'

/-- A text without the layout at its front. -/
def dropLayout (cs : List Char) : List Char := cs.dropWhile isLayout

/-- Reads the remaining letters of one of the three literals. -/
def readLetters : List Char → List Char → Except Problem (List Char)
  | [], cs => .ok cs
  | _ :: _, [] => .error (.ended .value)
  | want :: more, c :: rest =>
    if c = want then readLetters more rest else .error (.malformed .expectedIdent)

/-- The number that four hexadecimal digits stand for. -/
def hexFour? (a b c d : Char) : Option Nat := Text.hexNumber? [a, b, c, d]

/-- The problem of an escape that has fewer than four characters left: the text has ended if they
take fewer than four bytes. -/
def shortHex (cs : List Char) : Problem :=
  if Text.byteCount cs < 4 then .ended .string else .malformed .invalidEscape

/-- The character of a one-letter escape. -/
def simpleEscape? (c : Char) : Option Char :=
  if c = '"' then some '"'
  else if c = '\\' then some '\\'
  else if c = '/' then some '/'
  else if c = 'b' then some '\x08'
  else if c = 'f' then some '\x0c'
  else if c = 'n' then some '\n'
  else if c = 'r' then some '\r'
  else if c = 't' then some '\t'
  else none

/-- Whether a code is the first half of a pair that stands for one character. -/
def isHighSurrogate (n : Nat) : Bool := 0xD800 ≤ n && n ≤ 0xDBFF

/-- Whether a code is the second half of such a pair. -/
def isLowSurrogate (n : Nat) : Bool := 0xDC00 ≤ n && n ≤ 0xDFFF

def consTo (c : Char) (r : Except Problem (List Char × List Char)) :
    Except Problem (List Char × List Char) :=
  r.map fun (cs, rest) => (c :: cs, rest)

/-- Reads the inside of a string up to its closing quote. -/
def readChars : List Char → Except Problem (List Char × List Char)
  | [] => .error (.ended .string)
  | '"' :: rest => .ok ([], rest)
  | ['\\'] => .error (.ended .string)
  | '\\' :: 'u' :: a :: b :: c :: d :: rest =>
    match hexFour? a b c d with
    | none => .error (.malformed .invalidEscape)
    | some n =>
      if isLowSurrogate n then .error (.malformed .loneSurrogate)
      else if isHighSurrogate n then
        match rest with
        | [] => .error (.ended .string)
        | ['\\'] => .error (.ended .string)
        | '\\' :: 'u' :: e :: f :: g :: h :: rest =>
          match hexFour? e f g h with
          | none => .error (.malformed .invalidEscape)
          | some m =>
            if isLowSurrogate m then
              consTo (Char.ofNat (0x10000 + 0x400 * (n - 0xD800) + (m - 0xDC00))) (readChars rest)
            else .error (.malformed .loneSurrogate)
        | '\\' :: 'u' :: rest => .error (shortHex rest)
        | _ => .error (.malformed .endOfHexEscape)
      else consTo (Char.ofNat n) (readChars rest)
  | '\\' :: 'u' :: rest => .error (shortHex rest)
  | '\\' :: c :: rest =>
    match simpleEscape? c with
    | some c => consTo c (readChars rest)
    | none => .error (.malformed .invalidEscape)
  | c :: rest =>
    if c.toNat < 0x20 then .error (.malformed .controlCharacter) else consTo c (readChars rest)

/-- Reads a string behind its opening quote. -/
def readString : Reader String := fun cs =>
  (readChars cs).map fun (s, rest) => (String.ofList s, rest)

/-- The problem of a text that holds something else than what is expected. A literal, number or
string is read to its end first, since it may be malformed itself. -/
def unexpected (expected : String) (cs : List Char) : Problem :=
  let wrong (found : Found) : Problem := .misfit (.type found expected)
  let after {α : Type} (r : Except Problem α) (found : α → Found) : Problem :=
    match r with
    | .ok a => wrong (found a)
    | .error p => p
  match dropLayout cs with
  | 'n' :: r => after (readLetters ['u', 'l', 'l'] r) fun _ => .null
  | 't' :: r => after (readLetters ['r', 'u', 'e'] r) fun _ => .boolean true
  | 'f' :: r => after (readLetters ['a', 'l', 's', 'e'] r) fun _ => .boolean false
  | '-' :: r => after (Number.read false r) fun p => p.1.found
  | '"' :: r => after (readString r) fun p => .string p.1
  | '[' :: _ => wrong .sequence
  | '{' :: _ => wrong .map
  | c :: r =>
    if c.isDigit then after (Number.read true (c :: r)) fun p => p.1.found
    else .malformed .expectedValue
  | [] => .ended .value

/-- Reads a truth value. -/
def readBool : Reader Bool := fun cs =>
  match dropLayout cs with
  | 't' :: r => (readLetters ['r', 'u', 'e'] r).map fun rest => (true, rest)
  | 'f' :: r => (readLetters ['a', 'l', 's', 'e'] r).map fun rest => (false, rest)
  | _ => .error (unexpected "a boolean" cs)

/-- Reads `null`, where nothing else may stand. -/
def readUnit : Reader Unit := fun cs =>
  match dropLayout cs with
  | 'n' :: r => (readLetters ['u', 'l', 'l'] r).map fun rest => ((), rest)
  | _ => .error (unexpected "unit" cs)

/-- Takes a 32-bit word out of a number. -/
def wordOf (p : Number × List Char) : Except Problem (UInt32 × List Char) :=
  match p with
  | (.natural n, rest) =>
    if n < UInt32.size then .ok (UInt32.ofNat n, rest)
    else .error (.misfit (.value (.integer n) "u32"))
  | (.negative n, _) => .error (.misfit (.value (.integer (-n)) "u32"))
  | (.float f, _) => .error (.misfit (.type (Number.float f).found "u32"))

/-- Reads a whole number that fits 32 bits. -/
def readWord : Reader UInt32 := fun cs =>
  match dropLayout cs with
  | '-' :: r => (Number.read false r).bind wordOf
  | c :: r =>
    if c.isDigit then (Number.read true (c :: r)).bind wordOf else .error (unexpected "u32" cs)
  | [] => .error (.ended .value)

/-- Reads a string; `expected` is how a message calls it. -/
def readText (expected : String := "a string") : Reader String := fun cs =>
  match dropLayout cs with
  | '"' :: r => readString r
  | _ => .error (unexpected expected cs)

/-- Reads `null` or a value. -/
def readOption {α : Type} (r : Reader α) : Reader (Option α) := fun cs =>
  match dropLayout cs with
  | 'n' :: rest => (readLetters ['u', 'l', 'l'] rest).map fun rest => (none, rest)
  | _ => (r cs).map fun (a, rest) => (some a, rest)

/-- Passes the value on to a type that may refuse it. A position at the end of the reason is taken
for a position in the text that is read, which is not told. -/
def Reader.refine {α β : Type} (r : Reader α) (f : α → Except String β) : Reader β := fun cs =>
  (r cs).bind fun (a, rest) =>
    match f a with
    | .ok b => .ok (b, rest)
    | .error reason => .error (.misfit (.refused (Text.dropPosition reason)))

/-- The text behind the colon that follows the name of a field. -/
def readColon (cs : List Char) : Except Problem (List Char) :=
  match dropLayout cs with
  | ':' :: rest => .ok rest
  | [] => .error (.ended .object)
  | _ => .error (.malformed .expectedColon)

/-- The variant of a name, which must be one of those that are known. -/
def variantOf {α : Type} (variants : List (String × α)) (name : String) : Except Problem α :=
  match variants.lookup name with
  | some a => .ok a
  | none => .error (.misfit (.unknownVariant name (variants.map (·.1))))

/-- Reads the name of the only field of an object behind its opening brace. -/
def readVariantName : Reader String := fun cs =>
  match dropLayout cs with
  | '"' :: rest => readString rest
  | '}' :: _ => .error (.malformed .expectedValue)
  | [] => .error (.ended .object)
  | _ => .error (.malformed .keyMustBeString)

/-- Reads one of a list of names, written as a string or as the only field of an object, with
`null` as its value. -/
def readVariant {α : Type} (variants : List (String × α)) : Reader α := fun cs =>
  match dropLayout cs with
  | '"' :: rest => do
    let (name, rest) ← readString rest
    return (← variantOf variants name, rest)
  | '{' :: rest => do
    let (name, rest) ← readVariantName rest
    let a ← variantOf variants name
    let rest ← readColon rest
    let ((), rest) ← readUnit rest
    match dropLayout rest with
    | '}' :: rest => return (a, rest)
    | [] => .error (.ended .object)
    | _ => .error (.malformed .expectedValue)
  | [] => .error (.ended .value)
  | _ => .error (.malformed .expectedValue)

/-- A value that has been read already and is to be taken for one of a list of names. -/
inductive Choice
  | name (s : String)
  | fields (fields : List (String × Found))
  | other (found : Found)

/-- Takes one of a list of names out of a value: the name itself, or the only field of an object,
with `null` as its value. -/
def Choice.variant {α : Type} (variants : List (String × α)) : Choice → Except Problem α
  | name s => variantOf variants s
  | fields [(s, value)] => do
    let a ← variantOf variants s
    if value = .null then return a else .error (.misfit (.type value "unit"))
  | fields _ => .error (.misfit (.value .map "map with a single key"))
  | other found => .error (.misfit (.type found "string or map"))

/-- Whether another element follows in an array; `first` holds until one has been read. The comma
in front of the element is taken. -/
def nextElement (first : Bool) (cs : List Char) : Except Problem (Bool × List Char) :=
  match dropLayout cs with
  | [] => .error (.ended .list)
  | ']' :: rest => .ok (false, ']' :: rest)
  | c :: rest =>
    if first then .ok (true, c :: rest)
    else if c = ',' then
      match dropLayout rest with
      | ']' :: _ => .error (.malformed .trailingComma)
      | [] => .error (.ended .value)
      | rest => .ok (true, rest)
    else .error (.malformed .expectedListCommaOrEnd)

/-- Reads the elements of a list up to its closing bracket. The fuel is the length of the text,
which is more than any list has elements. -/
def readElements {α : Type} (r : Reader α) : Nat → Bool → Reader (List α)
  | 0, _ => fun _ => .error (.ended .list)
  | fuel + 1, first => fun cs => do
    match ← nextElement first cs with
    | (false, rest) => return ([], rest.drop 1)
    | (true, rest) =>
      let (a, rest) ← r rest
      let (as, rest) ← readElements r fuel false rest
      return (a :: as, rest)

/-- Reads an array of any length. -/
def readList {α : Type} (r : Reader α) : Reader (List α) := fun cs =>
  match dropLayout cs with
  | '[' :: rest => readElements r (rest.length + 1) true rest
  | _ => .error (unexpected "a sequence" cs)

/-- Reads a whole text, with nothing but layout behind the value. -/
def readWhole {α : Type} (r : Reader α) (s : String) : Except Problem α :=
  (r s.toList).bind fun (a, rest) =>
    if (dropLayout rest).isEmpty then .ok a else .error (.malformed .trailingCharacters)

end Hotkeys.Json
