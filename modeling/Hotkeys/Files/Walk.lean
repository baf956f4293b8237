import Hotkeys.Files.Path
import Hotkeys.Files.Tree

/-!
# Following paths through trees of files

A path is followed piece by piece from the root. Only a folder can be left by a piece, even by one
that leads nowhere else, so a path with a slash or a dot behind the name of a file leads nowhere.
-/

namespace Hotkeys.Files.Tree

variable {α : Type}

/-- Goes on from the end of a way by one piece. -/
def step (t : Tree α) (way : Way) (piece : String) : Except Fault Way :=
  match t.get? way with
  | some (.folder entries) =>
    if Path.isIdle piece then .ok way
    else if piece == ".." then .ok way.dropLast
    else if Path.longestName < piece.utf8ByteSize then .error .nameTooLong
    else if (entries.lookup piece).isSome then .ok (way ++ [piece])
    else .error .notFound
  | _ => .error .notDirectory

/-- Where the pieces of a path lead. They are followed from the root of the tree, which is also the
folder that relative paths start from. -/
def walk (t : Tree α) (pieces : List String) : Except Fault Way := pieces.foldlM t.step []

/-- The way to what there is at a path. -/
def find (t : Tree α) (p : Path) : Except Fault Way := p.check.bind fun () => t.walk p.pieces

/-- Whether the path leads somewhere. -/
def contains (t : Tree α) (p : Path) : Bool := (t.find p).toBool

/-- The content of the file that a path leads to. -/
def read (t : Tree α) (p : Path) : Except Fault α :=
  (t.find p).bind fun way =>
    match t.get? way with
    | some (.file content) => .ok content
    | _ => .error .isDirectory

/-- The way to the place of a name in the folder at the end of another way, whether or not there is
something. With a slash behind it, and no matter what there is, the name is that of a folder. -/
def nameWay (t : Tree α) (way : Way) (name : String) (slash : Bool) : Except Fault Way :=
  match t.step way name, slash with
  | .error .notDirectory, _ => .error .notDirectory
  | _, true => .error .isDirectory
  | .error .notFound, false => .ok (way ++ [name])
  | r, false => r

/-- The way to the file that a path names, whether or not it exists. A path that ends in dots names
a folder. -/
def fileWay (t : Tree α) (p : Path) : Except Fault Way :=
  let pieces := Path.dropSlashes p.pieces
  p.check.bind fun () =>
    match pieces.getLast? with
    | none => .error .isDirectory
    | some last =>
      (t.walk pieces.dropLast).bind fun way =>
        if Path.isDots last then (t.step way last).bind fun _ => .error .isDirectory
        else t.nameWay way last (pieces.length < p.pieces.length)

/-- Puts a content into the file of a path. The folder of the file must be there; the file itself
need not. -/
def write (t : Tree α) (p : Path) (content : α) : Except Fault (Tree α) :=
  (t.fileWay p).bind fun way =>
    match t.get? way with
    | some (.folder _) => .error .isDirectory
    | _ => .ok ((file content).insert t way)

/-- Takes away the file that a path leads to. -/
def remove (t : Tree α) (p : Path) : Except Fault (Tree α) :=
  (t.fileWay p).bind fun way =>
    match t.get? way with
    | some (.file _) => .ok (t.erase way)
    | some (.folder _) => .error .isDirectory
    | none => .error .notFound

/-- Makes the folders that pieces lead to from the end of a way, as far as they are missing. What
has been made stays where something further on fails. Once a folder has been made each further piece
is made for itself, so that a file in the way is then found to exist already. -/
def makeFrom (t : Tree α) (made : Bool) (way : Way) :
    List String → Except Fault Unit × Tree α
  | [] =>
    match t.get? way with
    | some (.folder _) => (.ok (), t)
    | _ => (.error .alreadyExists, t)
  | piece :: rest =>
    match t.step way piece with
    | .ok way => makeFrom t made way rest
    | .error .notFound =>
      makeFrom (empty.insert t (way ++ [piece])) true (way ++ [piece]) rest
    | .error .notDirectory => (.error (if made then .alreadyExists else .notDirectory), t)
    | .error fault => (.error fault, t)

/-- Makes the folders that a path leads to, as far as they are missing. -/
def makeAlong (t : Tree α) (p : Path) : Except Fault Unit × Tree α :=
  t.makeFrom false [] (p.pieces.filter fun piece => !Path.isIdle piece)

/-- Makes a folder and all folders that it lies in, as far as they are missing. A path that ends in
a dot has to lead to a folder; if it does not, only what the folder would lie in is made. -/
def makeFolder (t : Tree α) (p : Path) : Except Fault Unit × Tree α :=
  if p.isBlank then (.ok (), t)
  else match p.check with
    | .error fault => (.error fault, t)
    | .ok () =>
      if !p.endsInDot then t.makeAlong p
      else match t.find p, p.parent? with
        | .ok _, _ => (.ok (), t)
        | .error .notFound, some above =>
          match t.makeAlong above with
          | (.ok (), t) => (.error .notFound, t)
          | failed => failed
        | .error fault, _ => (.error fault, t)

/-- Makes the folders that the end of a path lies in, if they are missing. -/
def makeParent (t : Tree α) (p : Path) : Except Fault Unit × Tree α :=
  match p.parent? with
  | none => (.ok (), t)
  | some above => if t.contains above then (.ok (), t) else t.makeFolder above

/-- Writes a file and first makes the folders that it lies in, if they are missing. -/
def place (t : Tree α) (p : Path) (content : α) : Except Fault Unit × Tree α :=
  match t.makeParent p with
  | (.error fault, t) => (.error fault, t)
  | (.ok (), t) =>
    match t.write p content with
    | .error fault => (.error fault, t)
    | .ok t => (.ok (), t)

end Hotkeys.Files.Tree
