import Hotkeys.Text.Alphanumeric
import Hotkeys.Text.Basic
import Hotkeys.Text.Number

/-!
# Patterns for the values of fields

A directive of a log filter may ask for the value of a field by a regular expression. What the
expression matches never matters here, only whether it is well formed.

The properties of characters beyond ASCII are not known to patterns. What depends on them is
malformed unless the flag `u` is off: the classes of digits, blanks and word characters, the places
at the edge of a word, and any character with its case ignored. Where the flag is off, a class may
hold nothing but ASCII characters.
-/

namespace Hotkeys.Log.Pattern

/-- The flags that decide what is well formed. -/
structure Mode where
  ignoresCase : Bool := false
  unicode : Bool := true
  ignoresBlanks : Bool := false
  deriving DecidableEq, Repr

/-- Whether characters can be matched: their case is not known beyond ASCII. -/
def Mode.matchesCharacters (m : Mode) : Bool := !(m.ignoresCase && m.unicode)

/-- What is left behind blanks and comments. -/
def skipBlanks (inComment : Bool) : List Char → List Char
  | [] => []
  | c :: rest =>
    if inComment then skipBlanks (c != '\n') rest
    else if c == '#' then skipBlanks true rest
    else if Text.isBlank c then skipBlanks false rest
    else c :: rest

/-- What is left behind blanks and comments, if they do not count. -/
def Mode.skip (m : Mode) (cs : List Char) : List Char :=
  if m.ignoresBlanks then skipBlanks false cs else cs

/-- What a single place of a pattern stands for. -/
inductive Item
  /-- A character; `isByte` tells that it is written as one byte in hexadecimal. -/
  | character (c : Char) (isByte : Bool)
  /-- The digits, the blanks or the word characters, or all others. -/
  | kind (negated : Bool)
  /-- A place at the beginning or the end of the text. -/
  | anchor
  /-- A place at the edge of a word or away from it. -/
  | boundary

/-- Whether an item may stand in a pattern under a mode. -/
def Item.isAllowed (m : Mode) : Item → Bool
  | character c isByte => m.matchesCharacters && (m.unicode || !isByte || c.toNat < 0x80)
  | kind negated => !m.unicode && !negated
  | anchor => true
  | boundary => !m.unicode

/-- Whether an item may stand between the brackets of a class under a mode. -/
def Item.isAllowedInClass (m : Mode) : Item → Bool
  | character c _ => m.unicode || c.toNat < 0x80
  | kind negated => !m.unicode && !negated
  | anchor | boundary => false

/-- Reads a number of hexadecimal digits. -/
def readHex (m : Mode) (value : Nat) : Nat → List Char → Option (Nat × List Char)
  | 0, cs => some (value, cs)
  | n + 1, cs =>
    match m.skip cs with
    | [] => none
    | c :: rest => (Text.hexValue? c).bind fun d => readHex m (16 * value + d) n rest

/-- Reads a character that is written with a number of hexadecimal digits. -/
def readCode (m : Mode) (digits : Nat) (cs : List Char) : Option (Item × List Char) :=
  (readHex m 0 digits cs).bind fun (code, rest) =>
    if code.isValidChar then some (.character (Char.ofNat code) (digits == 2), rest) else none

/-- Reads what follows a backslash. Signs stand for themselves; of letters only some have a meaning,
and digits have none. -/
def readEscape (m : Mode) : List Char → Option (Item × List Char)
  | [] => none
  | 'x' :: rest => readCode m 2 rest
  | 'u' :: rest => readCode m 4 rest
  | 'U' :: rest => readCode m 8 rest
  | c :: rest =>
    if "dsw".toList.contains c then some (.kind false, rest)
    else if "DSW".toList.contains c then some (.kind true, rest)
    else if "Az".toList.contains c then some (.anchor, rest)
    else if "bB<>".toList.contains c then some (.boundary, rest)
    else
      match "aftnrv".toList.zip ['\x07', '\x0c', '\t', '\n', '\r', '\x0b'] |>.lookup c with
      | some meant => some (.character meant false, rest)
      | none =>
        if c.toNat < 0x80 && !c.isAlphanum then some (.character c false, rest) else none

/-! ## Classes -/

/-- The names of classes in brackets and colons. -/
def classNames : List String :=
  ["alnum", "alpha", "ascii", "blank", "cntrl", "digit", "graph", "lower", "print", "punct",
    "space", "upper", "word", "xdigit"]

/-- Reads a named class such as `[:alpha:]` behind its opening bracket; tells whether it is
negated. -/
def namedClass? : List Char → Option (Bool × List Char)
  | ':' :: rest =>
    let negated := rest.head? == some '^'
    let rest := if negated then rest.drop 1 else rest
    let name := rest.takeWhile (· != ':')
    match rest.dropWhile (· != ':') with
    | ':' :: ']' :: rest =>
      if classNames.contains (String.ofList name) then some (negated, rest) else none
    | _ => none
  | _ => none

/-- Reads one item between the brackets of a class. -/
def readClassItem (m : Mode) : List Char → Option (Item × List Char)
  | [] => none
  | '\\' :: rest => readEscape m rest
  | c :: rest => some (.character c false, rest)

/-- Reads a character of a class, a kind of characters, or a range between two characters. -/
def readRange (m : Mode) (cs : List Char) : Option (List Char) := do
  let (first, rest) ← readClassItem m cs
  if !first.isAllowedInClass m then none
  match m.skip rest with
  | '-' :: rest =>
    match m.skip rest with
    | [] => none
    | c :: _ =>
      if c == ']' || c == '-' then some ('-' :: rest)
      else
        let (last, rest) ← readClassItem m (m.skip rest)
        match first, last with
        | .character a _, .character b _ =>
          if last.isAllowedInClass m && a ≤ b then some rest else none
        | _, _ => none
  | rest => some rest

/-- What is left behind hyphens. -/
def skipHyphens (m : Mode) : Nat → List Char → List Char
  | 0, cs => cs
  | n + 1, cs =>
    match cs with
    | '-' :: rest => skipHyphens m n (m.skip rest)
    | cs => cs

mutual

/-- Reads a class behind its opening bracket. Hyphens at its beginning stand for themselves, and so
does a bracket that would close it there. -/
def readClass (m : Mode) : Nat → List Char → Option (List Char)
  | 0, _ => none
  | fuel + 1, cs =>
    let cs := m.skip cs
    let negated := cs.head? == some '^'
    let cs := if negated then m.skip (cs.drop 1) else cs
    if negated && !m.unicode then none
    else
      match cs with
      | ']' :: rest => readItems m fuel rest
      | cs => readItems m fuel (skipHyphens m cs.length cs)

/-- Reads the rest of a class. -/
def readItems (m : Mode) : Nat → List Char → Option (List Char)
  | 0, _ => none
  | fuel + 1, cs =>
    match m.skip cs with
    | ']' :: rest => some rest
    | '&' :: '&' :: rest | '-' :: '-' :: rest | '~' :: '~' :: rest => readItems m fuel rest
    | '[' :: rest =>
      match namedClass? rest with
      | some (negated, rest) =>
        if negated && !m.unicode then none else readItems m fuel rest
      | none => (readClass m fuel rest).bind (readItems m fuel)
    | cs => (readRange m cs).bind (readItems m fuel)

end

/-! ## Groups -/

/-- The mode with one flag set or taken back; flags that make no difference here are passed over. -/
def setFlag (m : Mode) (flag : Char) (on : Bool) : Mode :=
  match flag with
  | 'i' => { m with ignoresCase := on }
  | 'u' => { m with unicode := on }
  | 'x' => { m with ignoresBlanks := on }
  | _ => m

/-- Reads flags up to the colon or the parenthesis behind them. No flag may occur twice, and there
is one minus sign at most, with flags behind it. -/
def readFlags (m : Mode) (seen : List Char) : List Char → Option (Mode × List Char)
  | [] => none
  | c :: rest =>
    if c == ':' || c == ')' then
      if seen.head? == some '-' then none else some (m, c :: rest)
    else if seen.contains c || !"-imsUuRx".toList.contains c then none
    else readFlags (setFlag m c !(seen.contains '-')) (c :: seen) rest

def isNameStart (c : Char) : Bool := c == '_' || (Text.isAlphanumeric c && !c.isDigit)

def isNameChar (c : Char) : Bool := c == '_' || "._[]".toList.contains c || Text.isAlphanumeric c

/-- Reads the name of a group up to the angle bracket behind it. -/
def readName (cs : List Char) : Option (List Char × List Char) :=
  let name := cs.takeWhile (· != '>')
  match cs.dropWhile (· != '>') with
  | _ :: rest =>
    if name.head?.any isNameStart && name.all isNameChar then some (name, rest) else none
  | [] => none

/-- What an opening parenthesis begins. -/
inductive Opening
  /-- Nothing: the flags change from here to the end of the group around. -/
  | flags (m : Mode)
  | group (m : Mode) (name : Option (List Char))

/-- Reads what follows an opening parenthesis and tells what kind of group it opens. -/
def readOpening (m : Mode) : List Char → Option (Opening × List Char)
  | '?' :: 'P' :: '<' :: rest =>
    (readName rest).map fun (name, rest) => (.group m (some name), rest)
  | '?' :: '<' :: rest => (readName rest).map fun (name, rest) => (.group m (some name), rest)
  | '?' :: rest =>
    match readFlags m [] rest with
    | some (changed, ':' :: behind) => some (.group changed none, behind)
    | some (changed, _ :: behind) =>
      if rest.head? == some ')' then none else some (.flags changed, behind)
    | _ => none
  | rest => some (.group m none, rest)

/-! ## Patterns -/

/-- Whether the rest of a pattern is well formed, inside groups around which the given modes hold.
`operand` tells whether what was read last can be repeated. A repetition with a count is never
closed, because a closing brace would end the field. -/
def isFine (outer : List Mode) (m : Mode) (operand : Bool) (names : List (List Char)) :
    Nat → List Char → Bool
  | 0, _ => false
  | fuel + 1, cs =>
    match m.skip cs with
    | [] => outer.isEmpty
    | '(' :: rest =>
      match readOpening m (m.skip rest) with
      | none => false
      | some (.flags m, rest) => isFine outer m false names fuel rest
      | some (.group inner none, rest) => isFine (m :: outer) inner false names fuel rest
      | some (.group inner (some name), rest) =>
        !names.contains name && isFine (m :: outer) inner false (name :: names) fuel rest
    | ')' :: rest =>
      match outer with
      | [] => false
      | m :: outer => isFine outer m true names fuel rest
    | '|' :: rest => isFine outer m false names fuel rest
    | '[' :: rest =>
      m.matchesCharacters &&
        (readClass m fuel rest).any fun rest => isFine outer m true names fuel rest
    | '\\' :: rest =>
      (readEscape m rest).any fun (item, rest) =>
        item.isAllowed m && isFine outer m true names fuel rest
    | c :: rest =>
      if c == '*' || c == '+' || c == '?' then
        let rest := if rest.head? == some '?' then rest.drop 1 else rest
        operand && isFine outer m true names fuel rest
      else if c == '\x7b' then false
      else if c == '^' || c == '$' then isFine outer m true names fuel rest
      else if c == '.' then m.unicode && isFine outer m true names fuel rest
      else m.matchesCharacters && isFine outer m true names fuel rest

end Pattern

/-- Whether a text is a well-formed pattern. -/
def isPattern (cs : List Char) : Bool := Pattern.isFine [] {} false [] (cs.length + 1) cs

/-! ## Values -/

/-- Whether a text is a number with an optional sign in front: infinity, none at all, or digits with
an optional point and exponent. -/
def isNumber (cs : List Char) : Bool :=
  let unsigned (cs : List Char) : List Char :=
    if cs.head? == some '+' || cs.head? == some '-' then cs.drop 1 else cs
  let cs := unsigned cs
  let whole := cs.takeWhile Char.isDigit
  let rest := cs.drop whole.length
  let part := if rest.head? == some '.' then (rest.drop 1).takeWhile Char.isDigit else []
  let rest := if rest.head? == some '.' then rest.drop (part.length + 1) else rest
  ["inf", "infinity", "nan"].contains (String.ofList (cs.map Char.toLower)) ||
    (!(whole ++ part).isEmpty &&
      match rest with
      | [] => true
      | e :: rest =>
        (e == 'e' || e == 'E') && !(unsigned rest).isEmpty && (unsigned rest).all Char.isDigit)

/-- Whether a field can be asked to have a value: a number, or one that fits a pattern. -/
def isValue (cs : List Char) : Bool := isNumber cs || isPattern cs

end Hotkeys.Log
