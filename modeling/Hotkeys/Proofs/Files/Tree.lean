import Hotkeys.Files.Tree

/-!
# What there is in a tree of files

A tree is known by what there is at the end of each way: a file with its content, a folder, or
nothing. Putting a file or an empty folder into a folder, and taking a file away, change this at the
end of one way only.
-/

namespace Hotkeys.Files

/-- What there can be at the end of a way. -/
inductive Node (α : Type)
  | file (content : α)
  | folder
  deriving DecidableEq

namespace Tree

variable {α : Type}

def node : Tree α → Node α
  | file content => .file content
  | folder _ => .folder

/-- What there is at the end of a way. -/
def node? (t : Tree α) (way : Way) : Option (Node α) := (t.get? way).map node

@[simp] theorem node?_nil (t : Tree α) : t.node? [] = some t.node := by
  cases t <;> rfl

@[simp] theorem node?_file_cons (content : α) (name : String) (rest : Way) :
    (file content).node? (name :: rest) = none := rfl

theorem node?_folder_cons (entries : List (String × Tree α)) (name : String) (rest : Way) :
    (folder entries).node? (name :: rest) = (entries.lookup name).bind fun t => t.node? rest := by
  simp only [node?, get?]
  cases entries.lookup name <;> rfl

theorem get?_append (t : Tree α) (way rest : Way) :
    t.get? (way ++ rest) = (t.get? way).bind fun t => t.get? rest := by
  induction way generalizing t with
  | nil => rfl
  | cons name way ih =>
    cases t with
    | file content => rfl
    | folder entries =>
      simp only [List.cons_append, get?]
      cases entries.lookup name with
      | none => rfl
      | some inner => exact ih inner

theorem node?_append (t : Tree α) (way rest : Way) :
    t.node? (way ++ rest) = (t.get? way).bind fun t => t.node? rest := by
  rw [node?, get?_append, Option.map_bind]
  rfl

/-- Only a folder has anything in it. -/
theorem node?_append_cons_of_ne_folder {t : Tree α} {way : Way} (leaf : t.node? way ≠ some .folder)
    (name : String) (rest : Way) : t.node? (way ++ name :: rest) = none := by
  rw [node?_append]
  unfold node? at leaf
  cases found : t.get? way with
  | none => rfl
  | some inner =>
    cases inner with
    | file content => rfl
    | folder entries => exact absurd (by rw [found]; rfl) leaf

/-! ## Putting in and taking away -/

theorem lookup_filter_ne (entries : List (String × Tree α)) (name other : String) :
    (entries.filter fun e => e.1 != name).lookup other =
      if other = name then none else entries.lookup other := by
  induction entries with
  | nil => simp
  | cons e rest ih => grind

/-- Without its entries of one name, a folder is the same under every other name. -/
theorem node?_without (entries : List (String × Tree α)) (name other : String) (rest : Way) :
    (folder (entries.filter fun e => e.1 != name)).node? (other :: rest) =
      if other = name then none else (folder entries).node? (other :: rest) := by
  rw [node?_folder_cons, node?_folder_cons, lookup_filter_ne]
  split <;> rfl

/-- With one entry in place of those of its name, a folder is the same under every other name. -/
theorem node?_replaced (entries : List (String × Tree α)) (name : String) (inner : Tree α)
    (other : String) (rest : Way) :
    (folder ((name, inner) :: entries.filter fun e => e.1 != name)).node? (other :: rest) =
      if other = name then inner.node? rest else (folder entries).node? (other :: rest) := by
  have without := node?_without entries name other rest
  by_cases same : other = name
  · simp [node?_folder_cons, same]
  · rw [if_neg same] at without ⊢
    rw [← without, node?_folder_cons, node?_folder_cons, List.lookup_cons,
      beq_false_of_ne same]

/-- A folder on a way has an entry for what is further on. -/
theorem exists_entry {entries : List (String × Tree α)} {name : String} {rest : Way} {n : Node α}
    (found : (folder entries).node? (name :: rest) = some n) :
    ∃ inner, entries.lookup name = some inner ∧ inner.node? rest = some n := by
  rw [node?_folder_cons] at found
  exact Option.bind_eq_some_iff.mp found

/-- A tree without anything in it, put in a folder in place of a file or of nothing. -/
theorem node?_insert {new t : Tree α} {way : Way} {name : String}
    (bare : ∀ other rest, new.node? (other :: rest) = none) (parent : t.node? way = some .folder)
    (leaf : t.node? (way ++ [name]) ≠ some .folder) (at_ : Way) :
    (new.insert t (way ++ [name])).node? at_ =
      if at_ = way ++ [name] then some new.node else t.node? at_ := by
  induction way generalizing t at_ with
  | nil =>
    cases t with
    | file content => cases parent
    | folder entries =>
      cases at_ with
      | nil => rfl
      | cons other rest =>
        rw [List.nil_append, insert, node?_replaced]
        by_cases same : other = name
        · subst same
          cases rest with
          | nil => simp [insert]
          | cons further rest =>
            have below := node?_append_cons_of_ne_folder leaf further rest
            rw [List.nil_append, List.singleton_append] at below
            simp [insert, bare, below]
        · simp [same]
  | cons first way ih =>
    cases t with
    | file content => cases parent
    | folder entries =>
      obtain ⟨inner, found, above⟩ := exists_entry parent
      cases at_ with
      | nil => rfl
      | cons other rest =>
        rw [List.cons_append, insert, node?_replaced, found, Option.getD_some]
        by_cases same : other = first
        · subst same
          rw [List.cons_append, node?_folder_cons, found, Option.bind_some] at leaf
          simp [ih above leaf, node?_folder_cons, found]
        · simp [same]

/-- Below a folder, taking away is done in the entry that leads there. -/
theorem erase_deeper (entries : List (String × Tree α)) (name : String) {rest : Way}
    (deeper : rest ≠ []) :
    (folder entries).erase (name :: rest) =
      match entries.lookup name with
      | none => folder entries
      | some inner => folder ((name, inner.erase rest) :: entries.filter fun e => e.1 != name) := by
  cases rest with
  | nil => exact absurd rfl deeper
  | cons further rest => cases found : entries.lookup name <;> simp [erase, found]

/-- A file taken away. -/
theorem node?_erase {t : Tree α} {way : Way} {name : String}
    (leaf : t.node? (way ++ [name]) ≠ some .folder) (at_ : Way) :
    (t.erase (way ++ [name])).node? at_ = if at_ = way ++ [name] then none else t.node? at_ := by
  induction way generalizing t at_ with
  | nil =>
    cases t with
    | file content => cases at_ <;> simp [erase]
    | folder entries =>
      cases at_ with
      | nil => rfl
      | cons other rest =>
        rw [List.nil_append, erase, node?_without]
        by_cases same : other = name
        · subst same
          cases rest with
          | nil => simp
          | cons further rest =>
            have below := node?_append_cons_of_ne_folder leaf further rest
            rw [List.nil_append, List.singleton_append] at below
            simp [below]
        · simp [same]
  | cons first way ih =>
    cases t with
    | file content => cases at_ <;> simp [erase]
    | folder entries =>
      rw [List.cons_append, erase_deeper entries first (by simp)]
      cases found : entries.lookup first with
      | none =>
        have absent : (folder entries).node? (first :: (way ++ [name])) = none := by
          rw [node?_folder_cons, found]
          rfl
        dsimp only
        split
        · rename_i here
          rw [here, absent]
        · rfl
      | some inner =>
        cases at_ with
        | nil => rfl
        | cons other rest =>
          dsimp only
          rw [node?_replaced]
          by_cases same : other = first
          · subst same
            rw [List.cons_append, node?_folder_cons, found, Option.bind_some] at leaf
            simp [ih leaf, node?_folder_cons, found]
          · simp [same]

end Tree

end Hotkeys.Files
