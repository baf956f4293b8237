import Hotkeys.Files.Basic

/-!
# Paths

A path is written as pieces with slashes between them. A piece is the name of a file or folder, two
dots for the folder above, or something that leads nowhere else: one dot, or nothing at all, as
between two slashes that follow each other.
-/

namespace Hotkeys.Files

/-- A path as it is written. The root of a tree stands for the folder that the program works in as
well, so a path that does not begin with a slash is also followed from the root. -/
structure Path where
  /-- The path begins with a slash. -/
  fromRoot : Bool
  pieces : List String
  deriving DecidableEq, Repr

namespace Path

/-- The path that a text stands for. The empty text has no pieces and leads nowhere. -/
def ofText (s : String) : Path :=
  let split (cs : List Char) := (cs.splitOn '/').map String.ofList
  match s.toList with
  | [] => { fromRoot := false, pieces := [] }
  | '/' :: rest => { fromRoot := true, pieces := split rest }
  | cs => { fromRoot := false, pieces := split cs }

/-- The text that a path is written as. -/
def text (p : Path) : String :=
  (if p.fromRoot then "/" else "") ++ "/".intercalate p.pieces

/-- Whether nothing is written, not even a slash. -/
def isBlank (p : Path) : Bool := !p.fromRoot && p.pieces.isEmpty

/-- A piece that leads nowhere else. -/
def isIdle (piece : String) : Bool := piece == "" || piece == "."

/-- A piece made of dots, which is not the name of a file. -/
def isDots (piece : String) : Bool := piece == "." || piece == ".."

/-- The pieces without those at the end that lead nowhere else. -/
def dropIdle (pieces : List String) : List String := (pieces.reverse.dropWhile isIdle).reverse

/-- The pieces without what slashes at the end leave behind. -/
def dropSlashes (pieces : List String) : List String :=
  (pieces.reverse.dropWhile (· == "")).reverse

/-- Whether the path ends in a dot, which is no name for something new. -/
def endsInDot (p : Path) : Bool := (dropSlashes p.pieces).getLast? == some "."

/-- The path of something inside a folder. -/
def child (p : Path) (name : String) : Path :=
  { p with pieces := dropSlashes p.pieces ++ [name] }

/-- The path without its last piece, pieces that lead nowhere else not counted. -/
def parent? (p : Path) : Option Path :=
  let pieces := dropIdle p.pieces
  if pieces.isEmpty then none else some { p with pieces := dropIdle pieces.dropLast }

/-- The most bytes that a name can take. -/
def longestName : Nat := 255

/-- The most bytes that a path can take. -/
def longestPath : Nat := 4095

/-- Fails for a path that cannot lead anywhere, whatever files there are. -/
def check (p : Path) : Except Fault Unit :=
  if p.text.toList.contains '\x00' then .error .nulInName
  else if p.isBlank then .error .notFound
  else if longestPath < p.text.utf8ByteSize then .error .nameTooLong
  else .ok ()

end Path

end Hotkeys.Files
