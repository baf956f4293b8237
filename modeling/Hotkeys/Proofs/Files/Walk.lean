import Hotkeys.Files.Walk
import Hotkeys.Proofs.Files.Tree
import Mathlib.Data.List.DropRight

/-!
# Paths in a tree that changes

Following a path depends on what there is at the ends of ways alone. A walk that ends in a folder
passes folders only, so it is the same in every tree that has these folders.
-/

namespace Hotkeys.Files.Tree

variable {α : Type} {t t' : Tree α} {way way' : Way} {piece : String} {pieces : List String}

theorem node?_eq_folder_iff :
    t.node? way = some .folder ↔ ∃ entries, t.get? way = some (folder entries) := by
  unfold node?
  cases t.get? way with
  | none => simp
  | some inner => cases inner <;> simp [node]

theorem node?_eq_file_iff {content : α} :
    t.node? way = some (.file content) ↔ t.get? way = some (file content) := by
  unfold node?
  cases t.get? way with
  | none => simp
  | some inner => cases inner <;> simp [node]

/-! ## One piece -/

/-- A piece that can be the name of a file or folder. -/
structure IsName (piece : String) : Prop where
  solid : Path.isIdle piece = false
  down : piece ≠ ".."
  short : piece.utf8ByteSize ≤ Path.longestName

theorem step_of_folder (here : t.node? way = some .folder) (piece : String) :
    t.step way piece =
      if Path.isIdle piece then .ok way
      else if piece == ".." then .ok way.dropLast
      else if Path.longestName < piece.utf8ByteSize then .error .nameTooLong
      else if (t.node? (way ++ [piece])).isSome then .ok (way ++ [piece])
      else .error .notFound := by
  obtain ⟨entries, found⟩ := node?_eq_folder_iff.mp here
  have entry : (t.node? (way ++ [piece])).isSome = (entries.lookup piece).isSome := by
    rw [node?_append, found, Option.bind_some, node?_folder_cons]
    cases entries.lookup piece <;> simp
  rw [entry, step, found]

theorem step_of_not_folder (here : t.node? way ≠ some .folder) (piece : String) :
    t.step way piece = .error .notDirectory := by
  unfold step
  split
  · rename_i entries found
    exact absurd (node?_eq_folder_iff.mpr ⟨entries, found⟩) here
  · rfl

/-- A name leads on if there is something of this name in the folder. -/
theorem step_name (here : t.node? way = some .folder) (name : IsName piece) :
    t.step way piece =
      if (t.node? (way ++ [piece])).isSome then .ok (way ++ [piece]) else .error .notFound := by
  rw [step_of_folder here, if_neg (by simp [name.solid]), if_neg (by simp [name.down]),
    if_neg (Nat.not_lt.mpr name.short)]

/-- All the ways in which one piece leads on. -/
theorem step_eq_ok_iff :
    t.step way piece = .ok way' ↔ t.node? way = some .folder ∧
      (Path.isIdle piece ∧ way = way' ∨ piece = ".." ∧ way.dropLast = way' ∨
        IsName piece ∧ (t.node? (way ++ [piece])).isSome ∧ way ++ [piece] = way') := by
  have up : Path.isIdle ".." = false := by decide
  by_cases here : t.node? way = some .folder
  · simp only [here, true_and]
    by_cases idle : Path.isIdle piece
    · have other : piece ≠ ".." := by
        rintro rfl
        simp [up] at idle
      have unnamed : ¬ IsName piece := fun name => by simp [name.solid] at idle
      simp [step_of_folder here, idle, other, unnamed]
    · by_cases above : piece = ".."
      · have unnamed : ¬ IsName piece := fun name => name.down above
        subst above
        simp [step_of_folder here, up, unnamed]
      · by_cases long : Path.longestName < piece.utf8ByteSize
        · have unnamed : ¬ IsName piece := fun name => Nat.not_lt.mpr name.short long
          simp [step_of_folder here, idle, above, long, unnamed]
        · have name : IsName piece := ⟨Bool.eq_false_iff.mpr idle, above, Nat.not_lt.mp long⟩
          rw [step_name here name]
          split <;> simp_all
  · simp [step_of_not_folder here, here]

theorem step_eq_notFound_iff :
    t.step way piece = .error .notFound ↔
      t.node? way = some .folder ∧ IsName piece ∧ t.node? (way ++ [piece]) = none := by
  by_cases here : t.node? way = some .folder
  · simp only [here, true_and]
    constructor
    · intro missing
      rw [step_of_folder here] at missing
      split at missing
      · cases missing
      · rename_i solid
        split at missing
        · cases missing
        · rename_i down
          split at missing
          · cases missing
          · rename_i short
            split at missing
            · cases missing
            · rename_i nothing
              exact ⟨⟨by simpa using solid, by simpa using down, Nat.not_lt.mp short⟩,
                by simpa using nothing⟩
    · rintro ⟨name, nothing⟩
      rw [step_name here name, nothing]
      rfl
  · simp [step_of_not_folder here, here]

/-! ## Many pieces -/

/-- A path is followed one piece after the other. -/
theorem walk_cons_iff :
    (piece :: pieces).foldlM t.step way = .ok way' ↔
      ∃ next, t.step way piece = .ok next ∧ pieces.foldlM t.step next = .ok way' := by
  rw [List.foldlM_cons]
  cases t.step way piece <;> simp [bind, Except.bind]

/-- A walk to a folder begins in a folder. -/
theorem folder_of_walk (walked : pieces.foldlM t.step way = .ok way')
    (ends : t.node? way' = some .folder) : t.node? way = some .folder := by
  cases pieces with
  | nil =>
    cases walked
    exact ends
  | cons piece pieces =>
    obtain ⟨next, stepped, -⟩ := walk_cons_iff.mp walked
    exact (step_eq_ok_iff.mp stepped).1

/-- A tree has every folder of another. -/
def Keeps (t t' : Tree α) : Prop := ∀ way, t.node? way = some .folder → t'.node? way = some .folder

/-- A walk to a folder is the same in every tree that has the folders. -/
theorem Keeps.walk (kept : Keeps t t') (walked : pieces.foldlM t.step way = .ok way')
    (ends : t.node? way' = some .folder) : pieces.foldlM t'.step way = .ok way' := by
  induction pieces generalizing way with
  | nil => exact walked
  | cons piece pieces ih =>
    obtain ⟨next, stepped, further⟩ := walk_cons_iff.mp walked
    refine walk_cons_iff.mpr ⟨next, ?_, ih further⟩
    have there := kept next (folder_of_walk further ends)
    obtain ⟨here, idle | up | ⟨name, -, rfl⟩⟩ := step_eq_ok_iff.mp stepped
    · exact step_eq_ok_iff.mpr ⟨kept way here, .inl idle⟩
    · exact step_eq_ok_iff.mpr ⟨kept way here, .inr (.inl up)⟩
    · exact step_eq_ok_iff.mpr ⟨kept way here, .inr (.inr ⟨name, by simp [there], rfl⟩)⟩

/-- Pieces that lead nowhere else make no difference on the way to a folder. -/
theorem walk_of_walk_filter
    (walked : (pieces.filter fun piece => !Path.isIdle piece).foldlM t.step way = .ok way')
    (ends : t.node? way' = some .folder) : pieces.foldlM t.step way = .ok way' := by
  induction pieces generalizing way with
  | nil => exact walked
  | cons piece pieces ih =>
    by_cases idle : Path.isIdle piece
    · rw [List.filter_cons_of_neg (by simp [idle])] at walked
      have here := folder_of_walk walked ends
      exact walk_cons_iff.mpr ⟨way, step_eq_ok_iff.mpr ⟨here, .inl ⟨idle, rfl⟩⟩, ih walked⟩
    · rw [List.filter_cons_of_pos (by simp [idle])] at walked
      obtain ⟨next, stepped, further⟩ := walk_cons_iff.mp walked
      exact walk_cons_iff.mpr ⟨next, stepped, ih further⟩

/-! ## The place of a file -/

/-- The path leads to a folder and names something in it, whether or not it is there. -/
structure Names (t : Tree α) (p : Path) (above : Way) (name : String) : Prop where
  sound : p.check = .ok ()
  pieces : p.pieces = p.pieces.dropLast ++ [name]
  isName : IsName name
  walked : t.walk p.pieces.dropLast = .ok above
  folder : t.node? above = some .folder

variable {p : Path} {above : Way} {name : String}

/-- A path names the same place as long as nothing on its way is taken away. -/
theorem Names.keep (names : Names t p above name) (kept : Keeps t t') : Names t' p above name where
  sound := names.sound
  pieces := names.pieces
  isName := names.isName
  walked := kept.walk names.walked names.folder
  folder := kept above names.folder

/-- The path leads to what has the name in the folder. -/
theorem Names.find (names : Names t p above name) :
    t.find p =
      if (t.node? (above ++ [name])).isSome then .ok (above ++ [name]) else .error .notFound := by
  have walked := names.walked
  unfold walk at walked
  rw [Tree.find, names.sound, walk, names.pieces]
  change (p.pieces.dropLast ++ [name]).foldlM t.step [] = _
  rw [List.foldlM_append, walked, ← step_name names.folder names.isName]
  change t.step above name >>= _ = _
  cases t.step above name <;> rfl

theorem nameWay_eq_ok {slash : Bool} (solid : Path.isIdle name = false) (down : name ≠ "..")
    (found : t.nameWay above name slash = .ok way) :
    slash = false ∧ IsName name ∧ t.node? above = some .folder ∧ way = above ++ [name] := by
  unfold nameWay at found
  split at found
  · cases found
  · cases found
  · rename_i missing
    obtain ⟨folder, isName, -⟩ := step_eq_notFound_iff.mp missing
    exact ⟨rfl, isName, folder, (Except.ok.inj found).symm⟩
  · obtain ⟨folder, ⟨idle, -⟩ | ⟨up, -⟩ | ⟨isName, -, here⟩⟩ := step_eq_ok_iff.mp found
    · simp [solid] at idle
    · exact absurd up down
    · exact ⟨rfl, isName, folder, here.symm⟩

theorem Names.find_of_there (names : Names t p above name) {n : Node α}
    (there : t.node? (above ++ [name]) = some n) : t.find p = .ok (above ++ [name]) := by
  rw [names.find, there]
  rfl

theorem bind_eq_ok_iff {β γ : Type} {r : Except Fault β} {f : β → Except Fault γ} {c : γ} :
    r.bind f = .ok c ↔ ∃ b, r = .ok b ∧ f b = .ok c := by
  cases r <;> simp [Except.bind]

/-- What slashes at the end leave behind is taken off the end, and nothing else. -/
theorem dropSlashes_isPrefix (pieces : List String) : Path.dropSlashes pieces <+: pieces :=
  List.rdropWhile_prefix _ _

theorem ne_empty_of_getLast? {name : String}
    (last : (Path.dropSlashes pieces).getLast? = some name) : name ≠ "" := by
  obtain ⟨solid, rfl⟩ := List.mem_getLast?_eq_getLast last
  have other := List.rdropWhile_last_not (fun piece => piece == "") pieces solid
  exact fun empty => other (beq_iff_eq.mpr empty)

/-- The way to a file is one that its path names. -/
theorem names_of_fileWay (found : t.fileWay p = .ok way) :
    ∃ above name, Names t p above name ∧ way = above ++ [name] := by
  unfold fileWay at found
  obtain ⟨⟨⟩, sound, found⟩ := bind_eq_ok_iff.mp found
  split at found
  · cases found
  · rename_i name last
    obtain ⟨above, walked, found⟩ := bind_eq_ok_iff.mp found
    split at found
    · obtain ⟨next, -, found⟩ := bind_eq_ok_iff.mp found
      cases found
    · rename_i solid
      simp only [Path.isDots, Bool.or_eq_true, beq_iff_eq, not_or] at solid
      have idle : Path.isIdle name = false := by
        simp [Path.isIdle, ne_empty_of_getLast? last, solid.1]
      obtain ⟨slash, isName, folder, here⟩ := nameWay_eq_ok idle solid.2 found
      have whole : Path.dropSlashes p.pieces = p.pieces :=
        (dropSlashes_isPrefix p.pieces).eq_of_length_le (Nat.not_lt.mp (by simpa using slash))
      rw [whole] at last walked
      have split := (List.dropLast_append_getLast? name last).symm
      exact ⟨above, name, ⟨sound, split, isName, walked, folder⟩, here⟩

end Hotkeys.Files.Tree
