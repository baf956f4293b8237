import Hotkeys.Log.Pattern
import Hotkeys.Text.Utf8

/-!
# Directives of log filters

A directive lets lines through up to a rank. It is written as a rank, as the name of a target, or as
`target[span{field}]=rank`, where the target, the part between brackets and the rank may be missing.
Without a rank everything is let through.

Blanks around a directive do not count when its parts are told apart. The parts are then cut out of
the text with its blanks, at the same byte positions, so blanks in front of a directive push its
parts out of place.
-/

namespace Hotkeys.Log

/-- The names of the ranks, with no line at all at rank zero. -/
def rankNames : List (String × Nat) :=
  [("off", 0), ("error", 1), ("warn", 2), ("info", 3), ("debug", 4), ("trace", 5)]

/-- The rank that lets all levels through. -/
def highestRank : Nat := 5

/-- Reads the name of a rank in any case, or its number, in front of which a plus sign may stand. -/
def rank? (cs : List Char) : Option Nat :=
  let digits := match cs with
    | '+' :: rest => rest
    | _ => cs
  if !digits.isEmpty && digits.all Char.isDigit then
    let n := digits.foldl (fun n c => 10 * n + (c.toNat - 48)) 0
    if n ≤ highestRank then some n else none
  else rankNames.lookup (String.ofList (cs.map Char.toLower))

/-- A field that a directive asks for, perhaps with a value. -/
structure FieldMatch where
  name : String
  hasValue : Bool
  deriving DecidableEq, Repr

/-- Reads a field: its name, and behind an equals sign its value, which ends at the next one. -/
def FieldMatch.read? (cs : List Char) : Option FieldMatch :=
  let name := String.ofList (cs.takeWhile (· != '='))
  match cs.dropWhile (· != '=') with
  | [] => some { name, hasValue := false }
  | _ :: rest =>
    if isValue (rest.takeWhile (· != '=')) then some { name, hasValue := true } else none

/-- One directive of a filter: how much of the log it lets through, and for which lines it is. -/
structure Directive where
  target : Option (List Char) := none
  span : Option (List Char) := none
  field : Option FieldMatch := none
  rank : Nat := highestRank
  deriving DecidableEq, Repr

namespace Directive

/-- The characters that begin at byte positions from `start` up to but not including `stop`. -/
def cut (start stop : Nat) (cs : List Char) (position : Nat := 0) : List Char :=
  match cs with
  | [] => []
  | c :: rest =>
    let later := cut start stop rest (position + c.utf8Size)
    if start ≤ position ∧ position < stop then c :: later else later

variable (piece : List Char)

/-- Completes a directive by the rank that begins at a position. -/
def withRank (d : Directive) (start : Nat) : Option Directive :=
  match cut start (Text.byteCount piece) piece with
  | [] => some d
  | cs => (rank? cs).map fun rank => { d with rank }

/-- Reads what follows the closing bracket. -/
def readTail (d : Directive) (position : Nat) : List Char → Option Directive
  | [] => some d
  | '=' :: _ => d.withRank piece (position + 1)
  | _ => none

/-- Reads a field behind its opening brace. -/
def readField (d : Directive) (position : Nat) (cs : List Char) : Option Directive :=
  let stop := position + Text.byteCount (cs.takeWhile (· != '}'))
  match cut position stop piece, cs.dropWhile (· != '}') with
  | [], _ => none
  | cs, _ :: ']' :: rest =>
    (FieldMatch.read? cs).bind fun field =>
      { d with field := some field }.readTail piece (stop + 2) rest
  | _, _ => none

/-- Reads what stands between brackets, behind the opening one. The name of a span in front of a
field may be missing. -/
def readSpan (d : Directive) (position : Nat) (cs : List Char) : Option Directive :=
  let isInside (c : Char) : Bool := c != ']' && c != '{'
  let stop := position + Text.byteCount (cs.takeWhile isInside)
  let name := cut position stop piece
  match cs.dropWhile isInside with
  | ']' :: rest => { d with span := some name }.readTail piece (stop + 1) rest
  | '{' :: rest =>
    { d with span := if name.isEmpty then none else some name }.readField piece (stop + 1) rest
  | _ => none

/-- A character that a name can begin with. -/
def isFirst (c : Char) : Bool := c == '-' || c == ':' || c == '_' || Text.isAlphanumeric c

/-- Reads a directive that begins with a name: a rank, a target, or a target with more behind it. -/
def readNamed (cs : List Char) : Option Directive :=
  let isInside (c : Char) : Bool := c != '=' && c != '['
  let stop := Text.byteCount (cs.takeWhile isInside)
  let d : Directive := { target := some (cut 0 stop piece) }
  match cs.dropWhile isInside with
  | [] =>
    match rank? piece with
    | some rank => some { rank }
    | none => some { target := some piece }
  | '=' :: _ => d.withRank piece (stop + 1)
  | _ :: rest => d.readSpan piece (stop + 1) rest

/-- Reads a directive, which begins with a span or with a name. -/
def read? : Option Directive :=
  match Text.trim piece with
  | '[' :: rest => ({} : Directive).readSpan piece 1 rest
  | c :: rest => if isFirst c then readNamed piece (c :: rest) else none
  | [] => none

/-- Whether the directive can decide about single lines. One that asks for a span or for the value
of a field does not, since no line stands in a span. -/
def isAboutLines (d : Directive) : Bool := d.span.isNone && !d.field.any (·.hasValue)

end Directive

end Hotkeys.Log
