import Hotkeys.Script.Numeral
import Hotkeys.Text.Utf8

/-!
# Tokens of scripts

The words, signs and values that a script is made of, as they stand in its text. Messages quote a
token by what has been read of it, with escapes in strings worked out, up to a NUL byte.
-/

namespace Hotkeys.Script

/-- A token of a script. -/
inductive Token
  | name (s : String)
  | numeral (n : Numeral)
  | string (content : List UInt8)
  /-- A reserved word or a sign, by its spelling. -/
  | word (s : String)
  /-- A byte that begins no token. -/
  | stray (b : UInt8)
  /-- The end of the script. -/
  | finish
  /-- Something that is no token, and why. -/
  | flawed (message : String)

namespace Token

/-- The words that are no names. -/
def reservedWords : List String :=
  ["and", "break", "do", "else", "elseif", "end", "false", "for", "function", "goto", "if", "in",
    "local", "nil", "not", "or", "repeat", "return", "then", "true", "until", "while"]

def ofName (s : String) : Token := if reservedWords.contains s then word s else name s

/-- The signs, longer ones before those that they begin with. -/
def signs : List String :=
  ["...", "..", "==", "~=", "<=", ">=", "//", "::", "<<", ">>", "+", "-", "*", "/", "%", "^", "#",
    "&", "~", "|", "<", ">", "=", "(", ")", "\x7b", "\x7d", "[", "]", ";", ":", ",", "."]

/-- Whether the token is the given word or sign. -/
def isWord (t : Token) (s : String) : Bool :=
  match t with
  | word s' => s == s'
  | _ => false

end Token

/-- What has been read of a token, as messages quote it. -/
def quoted (raw : List UInt8) : String :=
  let shown := Text.mended (raw.takeWhile (· != 0))
  s!"'{shown}'"

/-- A byte as messages quote it: as a character, or by its number if it cannot be printed. -/
def quotedByte (b : UInt8) : String :=
  if 0x20 ≤ b && b < 0x7F then quoted [b] else s!"'<\\{b.toNat}>'"

/-- How messages call the end of a script. -/
def finishQuote : String := "<eof>"

/-- A token together with its place in the script. -/
structure Lexeme where
  token : Token
  /-- How messages quote the token. There is no such quote for a NUL byte. -/
  quote : Option String
  /-- The line that the token ends on. -/
  line : Nat

namespace Lexeme

def ofSign (s : String) (line : Nat) : Lexeme := ⟨.word s, some s!"'{s}'", line⟩

def ofStray (b : UInt8) (line : Nat) : Lexeme :=
  ⟨.stray b, if b == 0 then none else some (quotedByte b), line⟩

def ofFinish (line : Nat) : Lexeme := ⟨.finish, some finishQuote, line⟩

end Lexeme

end Hotkeys.Script
