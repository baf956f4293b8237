import Hotkeys.Script.Token.Quoted

/-!
# Reading tokens

A script is cut into tokens from left to right, each as long as it can be. Blanks and comments
between tokens do not count. The list ends with the end of the script, or with the first thing that
is no token.
-/

namespace Hotkeys.Script

/-- What is left behind a comment, whose two hyphens have been read, and the line there. -/
def skipComment (line : Nat) (cs : List Char) : Except Flaw (Nat × List Char) :=
  let toLineEnd : Except Flaw (Nat × List Char) := .ok (line, cs.dropWhile fun c => !isLineEnd c)
  match cs with
  | '[' :: rest =>
    match longBracket? '[' rest with
    | some (level, rest) =>
      (readLong "comment" line level (rest.length + 1)
        (skipFirstLineEnd { done := [], line, rest })).map fun p => (p.line, p.rest)
    | none => toLineEnd
  | _ => toLineEnd

/-- A string with its marks, as long as they are, taken off. -/
def stringLexeme (marks : Nat) (p : Progress) : Lexeme :=
  let raw := p.done.reverse
  ⟨.string ((raw.drop marks).take (raw.length - 2 * marks)), some (quoted raw), p.line⟩

/-- Reads a string in long brackets behind the first bracket. A bracket with equals signs behind it
has to be a long one; any other bracket is a sign. -/
def readBracket (line : Nat) (cs : List Char) : Except Flaw (Lexeme × List Char) :=
  let level := (cs.takeWhile (· == '=')).length
  let opening := Text.encode ('[' :: cs.take level)
  match longBracket? '[' cs with
  | some (_, rest) =>
    let start : Progress := { done := (opening ++ [91]).reverse, line, rest }
    (readLong "string" line level (rest.length + 1) (skipFirstLineEnd start)).map fun p =>
      (stringLexeme (level + 2) p, p.rest)
  | none =>
    if level = 0 then .ok (.ofSign "[" line, cs)
    else .error ⟨line, s!"invalid long string delimiter near {quoted opening}"⟩

/-- The token of a number, if its characters stand for one. -/
def readNumeral (line : Nat) (raw : List Char) : Except Flaw Lexeme :=
  let quote := quoted (Text.encode raw)
  match Numeral.read? raw with
  | some n => .ok ⟨.numeral n, some quote, line⟩
  | none => .error ⟨line, s!"malformed number near {quote}"⟩

def isWordChar (c : Char) : Bool := c.isAlphanum || c == '_'

/-- The longest sign that a text begins with. -/
def sign? (cs : List Char) : Option String := Token.signs.find? fun s => s.toList.isPrefixOf cs

/-- Reads the token that a text begins with, which is no blank and begins no comment. -/
def readToken (line : Nat) (c : Char) (rest : List Char) : Except Flaw (Lexeme × List Char) :=
  if c == '"' || c == '\'' then
    (readQuoted c (rest.length + 1) { done := Text.encodeChar c, line, rest }).map fun p =>
      (stringLexeme 1 p, p.rest)
  else if c == '[' then readBracket line rest
  else if c.isDigit then
    let (raw, rest) := Numeral.cut (c :: rest)
    (readNumeral line raw).map fun lexeme => (lexeme, rest)
  else if c == '.' && rest.head?.any Char.isDigit then
    let (raw, rest) := Numeral.cut rest
    (readNumeral line ('.' :: raw)).map fun lexeme => (lexeme, rest)
  else if Numeral.isLetter c then
    let s := String.ofList (c :: rest.takeWhile isWordChar)
    .ok (⟨.ofName s, some s!"'{s}'", line⟩, rest.dropWhile isWordChar)
  else
    match sign? (c :: rest) with
    | some s => .ok (.ofSign s line, rest.drop (s.length - 1))
    | none => .ok (.ofStray ((Text.encodeChar c).headD 0) line, rest)

/-- Reads tokens. With each of them the text gets shorter, so that its length is enough fuel. -/
def scan : Nat → Nat → List Char → List Lexeme
  | 0, line, _ => [.ofFinish line]
  | fuel + 1, line, cs =>
    let flawed (f : Flaw) : List Lexeme := [⟨.flawed f.message, none, f.line⟩]
    match cs with
    | [] => [.ofFinish line]
    | c :: rest =>
      if isLineEnd c then scan fuel (line + 1) (afterLineEnd c rest)
      else if isSpace c then scan fuel line rest
      else if c == '-' && rest.head? == some '-' then
        match skipComment line (rest.drop 1) with
        | .ok (line, rest) => scan fuel line rest
        | .error f => flawed f
      else
        match readToken line c rest with
        | .ok (lexeme, rest) => lexeme :: scan fuel lexeme.line rest
        | .error f => flawed f

/-- The tokens of a script. -/
def tokens (s : String) : List Lexeme := scan (s.length + 1) 1 s.toList

end Hotkeys.Script
