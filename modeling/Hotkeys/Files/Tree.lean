/-!
# Trees of files

A tree is a file with its content, or a folder with a tree for each of its names. A way is the list
of the names that lead from the root of a tree down to a place in it.
-/

namespace Hotkeys.Files

/-- A tree of files that hold values of type `α`. -/
inductive Tree (α : Type)
  | file (content : α)
  | folder (entries : List (String × Tree α))

/-- The names that lead from the root of a tree down to a place in it. -/
abbrev Way := List String

namespace Tree

variable {α : Type}

/-- A folder with nothing in it. -/
def empty : Tree α := folder []

instance : Inhabited (Tree α) := ⟨empty⟩

/-- What there is at the end of a way. -/
def get? (t : Tree α) : Way → Option (Tree α)
  | [] => some t
  | name :: rest =>
    match t with
    | file _ => none
    | folder entries => (entries.lookup name).bind fun inner => inner.get? rest

/-- Puts something at the end of a way, in place of what was there. Folders that are missing on the
way are made; a file on the way is kept, and nothing is put behind it. -/
def insert (new : Tree α) (t : Tree α) : Way → Tree α
  | [] => new
  | name :: rest =>
    match t with
    | file content => file content
    | folder entries =>
      folder ((name, new.insert ((entries.lookup name).getD empty) rest) ::
        entries.filter fun e => e.1 != name)

/-- Takes away what there is at the end of a way. The root stays. -/
def erase (t : Tree α) : Way → Tree α
  | [] => t
  | name :: rest =>
    match t with
    | file content => file content
    | folder entries =>
      let others := entries.filter fun e => e.1 != name
      match rest, entries.lookup name with
      | [], _ => folder others
      | _, none => folder entries
      | _, some inner => folder ((name, inner.erase rest) :: others)

end Tree

end Hotkeys.Files
