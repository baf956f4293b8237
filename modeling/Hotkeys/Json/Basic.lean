import Hotkeys.Text.Number

/-!
# JSON documents and their two layouts

A document is written either compactly, without any blank, or pretty, with one field or element a
line and two spaces a level.
-/

namespace Hotkeys

/-- A JSON document. All numbers that the program writes are whole. -/
inductive Json
  | null
  | bool (b : Bool)
  | number (n : Int)
  | string (s : String)
  | array (items : List Json)
  | object (fields : List (String × Json))
  deriving Inhabited

namespace Json

/-- What is not there is written as `null`. -/
def ofOption {α : Type} (f : α → Json) : Option α → Json
  | none => null
  | some a => f a

/-- A 32-bit word is written as a number. -/
def word (n : UInt32) : Json := number n.toNat

/-- One character inside quotes. Control characters and the two characters that have a meaning
inside quotes are escaped; every other character stands for itself. -/
def escapeChar (c : Char) : List Char :=
  if c = '"' then ['\\', '"']
  else if c = '\\' then ['\\', '\\']
  else if c = '\x08' then ['\\', 'b']
  else if c = '\x0c' then ['\\', 'f']
  else if c = '\n' then ['\\', 'n']
  else if c = '\r' then ['\\', 'r']
  else if c = '\t' then ['\\', 't']
  else if c.toNat < 0x20 then
    ['\\', 'u', '0', '0', Text.digitChar (c.toNat / 16), (Text.digitChar (c.toNat % 16)).toLower]
  else [c]

/-- A text between quotes, with what has to be escaped in it. -/
def quote (cs : List Char) : List Char := '"' :: (cs.flatMap escapeChar ++ ['"'])

/-- The decimal text of a whole number. -/
def integer (n : Int) : List Char :=
  if n < 0 then '-' :: Text.decimal n.natAbs else Text.decimal n.natAbs

mutual

/-- The document without any blank. -/
def compact : Json → List Char
  | null => ['n', 'u', 'l', 'l']
  | bool true => ['t', 'r', 'u', 'e']
  | bool false => ['f', 'a', 'l', 's', 'e']
  | number n => integer n
  | string s => quote s.toList
  | array items => '[' :: (compactItems items ++ [']'])
  | object fields => '{' :: (compactFields fields ++ ['}'])

/-- The items of a list without layout. -/
def compactItems : List Json → List Char
  | [] => []
  | [item] => compact item
  | item :: rest => compact item ++ ',' :: compactItems rest

/-- The fields of an object without layout. -/
def compactFields : List (String × Json) → List Char
  | [] => []
  | [(name, value)] => quote name.toList ++ ':' :: compact value
  | (name, value) :: rest =>
    quote name.toList ++ ':' :: (compact value ++ ',' :: compactFields rest)

end

/-- A new line with two blanks for each level. -/
def newLine (depth : Nat) : List Char := '\n' :: List.replicate (2 * depth) ' '

mutual

/-- The document with a line for each field and element, standing at the given depth. -/
def prettyAt (depth : Nat) : Json → List Char
  | array [] => ['[', ']']
  | array (item :: rest) =>
    '[' :: (newLine (depth + 1) ++ prettyAt (depth + 1) item ++ prettyItems (depth + 1) rest ++
      newLine depth ++ [']'])
  | object [] => ['{', '}']
  | object ((name, value) :: rest) =>
    '{' :: (newLine (depth + 1) ++ quote name.toList ++ ':' :: ' ' :: prettyAt (depth + 1) value ++
      prettyFields (depth + 1) rest ++ newLine depth ++ ['}'])
  | null => ['n', 'u', 'l', 'l']
  | bool true => ['t', 'r', 'u', 'e']
  | bool false => ['f', 'a', 'l', 's', 'e']
  | number n => integer n
  | string s => quote s.toList

/-- The items behind the first one, each on a line of its own. -/
def prettyItems (depth : Nat) : List Json → List Char
  | [] => []
  | item :: rest => ',' :: (newLine depth ++ prettyAt depth item ++ prettyItems depth rest)

/-- The fields behind the first one, each on a line of its own. -/
def prettyFields (depth : Nat) : List (String × Json) → List Char
  | [] => []
  | (name, value) :: rest =>
    ',' :: (newLine depth ++ quote name.toList ++ ':' :: ' ' :: prettyAt depth value ++
      prettyFields depth rest)

end

def compactText (j : Json) : String := String.ofList j.compact

def prettyText (j : Json) : String := String.ofList (j.prettyAt 0)

end Json

end Hotkeys
