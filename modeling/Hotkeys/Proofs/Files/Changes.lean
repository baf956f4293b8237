import Hotkeys.Proofs.Files.Walk

/-!
# What changes in a tree

Writing puts one file in its place and may first make folders on the way to it; removing takes one
file away. Nothing else changes, also where an attempt fails half-way.
-/

namespace Hotkeys.Files.Tree

variable {α : Type} {t t' : Tree α} {p : Path} {way : Way} {pieces : List String}

/-! ## Files -/

/-- A change at the end of one way, where there is no folder, keeps the folders. -/
theorem keeps_of_leaf {new : Option (Node α)} (leaf : t.node? way ≠ some .folder)
    (changed : ∀ at_, t'.node? at_ = if at_ = way then new else t.node? at_) : Keeps t t' := by
  intro at_ folder
  rw [changed, if_neg]
  · exact folder
  · rintro rfl
    exact leaf folder

theorem write_eq_ok {content : α} (written : t.write p content = .ok t') :
    ∃ above name, Names t p above name ∧ Names t' p above name ∧
      t.node? (above ++ [name]) ≠ some .folder ∧
      ∀ at_, t'.node? at_ =
        if at_ = above ++ [name] then some (.file content) else t.node? at_ := by
  unfold write at written
  obtain ⟨way, found, written⟩ := bind_eq_ok_iff.mp written
  obtain ⟨above, name, names, rfl⟩ := names_of_fileWay found
  split at written
  · cases written
  · rename_i leaf
    have leaf' : t.node? (above ++ [name]) ≠ some .folder := by
      intro folder
      obtain ⟨entries, found⟩ := node?_eq_folder_iff.mp folder
      exact leaf entries found
    have bare : ∀ other rest, (file content).node? (other :: rest) = none := fun _ _ => rfl
    have changed := node?_insert bare names.folder leaf'
    cases written
    exact ⟨above, name, names, names.keep (keeps_of_leaf leaf' changed), leaf', changed⟩

theorem remove_eq_ok (removed : t.remove p = .ok t') :
    ∃ above name content, Names t p above name ∧ Names t' p above name ∧
      t.node? (above ++ [name]) = some (.file content) ∧
      ∀ at_, t'.node? at_ = if at_ = above ++ [name] then none else t.node? at_ := by
  unfold remove at removed
  obtain ⟨way, found, removed⟩ := bind_eq_ok_iff.mp removed
  obtain ⟨above, name, names, rfl⟩ := names_of_fileWay found
  split at removed
  · rename_i content there
    have file := node?_eq_file_iff.mpr there
    have leaf : t.node? (above ++ [name]) ≠ some .folder := by simp [file]
    have changed := node?_erase leaf
    cases removed
    exact ⟨above, name, content, names, names.keep (keeps_of_leaf leaf changed), file, changed⟩
  · cases removed
  · cases removed

/-! ## Folders -/

/-- The second tree has what the first has, and besides only folders that beginnings of the pieces
lead to. -/
def AddsFolders (t t' : Tree α) (way : Way) (pieces : List String) : Prop :=
  ∀ at_, t'.node? at_ = t.node? at_ ∨ t.node? at_ = none ∧ t'.node? at_ = some .folder ∧
    ∃ front, front <+: pieces ∧ front.foldlM t'.step way = .ok at_

theorem AddsFolders.refl (t : Tree α) (way : Way) (pieces : List String) :
    AddsFolders t t way pieces :=
  fun _ => .inl rfl

/-- New folders take nothing away. -/
theorem AddsFolders.keeps (adds : AddsFolders t t' way pieces) : Keeps t t' := by
  intro at_ folder
  obtain same | ⟨absent, -⟩ := adds at_
  · rw [same, folder]
  · rw [absent] at folder
    cases folder

theorem AddsFolders.isSome (adds : AddsFolders t t' way pieces) {at_ : Way}
    (there : (t.node? at_).isSome) : t'.node? at_ = t.node? at_ := by
  obtain same | ⟨absent, -⟩ := adds at_
  · exact same
  · simp [absent] at there

/-- Folders that are added for one piece, and then for those behind it. -/
theorem AddsFolders.cons {between : Tree α} {piece : String} {next : Way}
    (first : AddsFolders t between way [piece]) (further : AddsFolders between t' next pieces)
    (stepped : t'.step way piece = .ok next) : AddsFolders t t' way (piece :: pieces) := by
  intro at_
  obtain same | ⟨absent, folder, front, within, walked⟩ := further at_
  · rw [same]
    obtain same | ⟨absent, folder, front, within, walked⟩ := first at_
    · exact .inl same
    · refine .inr ⟨absent, folder, front, ?_, further.keeps.walk walked folder⟩
      exact within.trans (List.cons_prefix_cons.mpr ⟨rfl, List.nil_prefix⟩)
  · have absent' : t.node? at_ = none := by
      obtain same | ⟨absent', -⟩ := first at_
      · rw [← same, absent]
      · exact absent'
    exact .inr ⟨absent', folder, piece :: front, List.cons_prefix_cons.mpr ⟨rfl, within⟩,
      walk_cons_iff.mpr ⟨next, stepped, walked⟩⟩

theorem insert_empty_adds {piece : String} (here : t.node? way = some .folder)
    (name : IsName piece) (absent : t.node? (way ++ [piece]) = none) :
    let made := empty.insert t (way ++ [piece])
    AddsFolders t made way [piece] ∧ made.node? (way ++ [piece]) = some .folder := by
  intro made
  have leaf : t.node? (way ++ [piece]) ≠ some .folder := by simp [absent]
  have bare : ∀ other rest, (empty : Tree α).node? (other :: rest) = none := fun _ _ => rfl
  have changed := node?_insert bare here leaf
  have kept := keeps_of_leaf leaf changed
  have folder : made.node? (way ++ [piece]) = some .folder := by rw [changed, if_pos rfl]; rfl
  refine ⟨fun at_ => ?_, folder⟩
  by_cases there : at_ = way ++ [piece]
  · subst there
    refine .inr ⟨absent, folder, [piece], List.prefix_rfl, walk_cons_iff.mpr ⟨_, ?_, rfl⟩⟩
    rw [step_name (kept way here) name, folder]
    rfl
  · exact .inl (by rw [changed, if_neg there])

/-- Making folders along some pieces adds folders at these pieces only, also if it fails on the way.
-/
theorem makeFrom_adds (t : Tree α) (made : Bool) (way : Way) (pieces : List String) :
    AddsFolders t (t.makeFrom made way pieces).2 way pieces := by
  induction pieces generalizing t made way with
  | nil =>
    unfold makeFrom
    split <;> exact .refl t way []
  | cons piece rest ih =>
    unfold makeFrom
    split
    · rename_i next stepped
      have adds := ih t made next
      refine AddsFolders.cons (.refl t way [piece]) adds ?_
      obtain ⟨here, idle | up | ⟨name, there, rfl⟩⟩ := step_eq_ok_iff.mp stepped
      · exact step_eq_ok_iff.mpr ⟨adds.keeps way here, .inl idle⟩
      · exact step_eq_ok_iff.mpr ⟨adds.keeps way here, .inr (.inl up)⟩
      · rw [← adds.isSome there] at there
        exact step_eq_ok_iff.mpr ⟨adds.keeps way here, .inr (.inr ⟨name, there, rfl⟩)⟩
    · rename_i missing
      obtain ⟨here, name, absent⟩ := step_eq_notFound_iff.mp missing
      obtain ⟨first, folder⟩ := insert_empty_adds here name absent
      have adds := ih (empty.insert t (way ++ [piece])) true (way ++ [piece])
      refine first.cons adds ?_
      rw [step_name (adds.keeps way (first.keeps way here)) name, adds.keeps _ folder]
      rfl
    · exact .refl t way _
    · exact .refl t way _

theorem AddsFolders.mono {pieces' : List String} (adds : AddsFolders t t' way pieces)
    (within : pieces <+: pieces') : AddsFolders t t' way pieces' := by
  intro at_
  obtain same | ⟨absent, folder, front, before, walked⟩ := adds at_
  · exact .inl same
  · exact .inr ⟨absent, folder, front, before.trans within, walked⟩

theorem makeAlong_adds (t : Tree α) (p : Path) :
    AddsFolders t (t.makeAlong p).2 [] p.pieces := by
  intro at_
  obtain same | ⟨absent, folder, front, ⟨back, split⟩, walked⟩ := makeFrom_adds t false []
    (p.pieces.filter fun piece => !Path.isIdle piece) at_
  · exact .inl same
  · obtain ⟨front', back', whole, rfl, -⟩ := List.filter_eq_append_iff.mp split.symm
    exact .inr ⟨absent, folder, front', ⟨back', whole.symm⟩, walk_of_walk_filter walked folder⟩

theorem parent?_isPrefix {above : Path} (parent : p.parent? = some above) :
    above.pieces <+: p.pieces.dropLast := by
  have dropIdle_isPrefix : ∀ pieces, Path.dropIdle pieces <+: pieces :=
    fun pieces => List.rdropWhile_prefix _ _
  unfold Path.parent? at parent
  dsimp only at parent
  split at parent
  · cases parent
  · cases parent
    refine (dropIdle_isPrefix _).trans ?_
    obtain ⟨idle, split⟩ := dropIdle_isPrefix p.pieces
    generalize Path.dropIdle p.pieces = front at split ⊢
    rw [← split]
    by_cases last : idle = []
    · simp [last]
    · rw [List.dropLast_append_of_ne_nil last]
      exact (List.dropLast_prefix front).trans (List.prefix_append front _)

theorem makeFolder_adds (t : Tree α) (p : Path) :
    AddsFolders t (t.makeFolder p).2 [] p.pieces := by
  unfold makeFolder
  split
  · exact .refl t [] p.pieces
  · split
    · exact .refl t [] p.pieces
    · split
      · exact makeAlong_adds t p
      · split
        · exact .refl t [] p.pieces
        · rename_i above missing parent
          have within := (parent?_isPrefix parent).trans (List.dropLast_prefix p.pieces)
          have adds := (makeAlong_adds t above).mono within
          split
          · rename_i made
            rwa [made] at adds
          · exact adds
        · exact .refl t [] p.pieces

/-- Making the folder of a file adds folders along its path only. -/
theorem makeParent_adds (t : Tree α) (p : Path) :
    AddsFolders t (t.makeParent p).2 [] p.pieces.dropLast := by
  unfold makeParent
  split
  · exact .refl t [] _
  · rename_i above parent
    split
    · exact .refl t [] _
    · exact (makeFolder_adds t above).mono (parent?_isPrefix parent)

/-! ## Files with their folders -/

/-- A file that has been placed is there, below folders that were there or have been made. -/
theorem place_eq_ok {content : α} (placed : (t.place p content).1 = .ok ()) :
    ∃ between above name, AddsFolders t between [] p.pieces.dropLast ∧
      Keeps between (t.place p content).2 ∧ Names (t.place p content).2 p above name ∧
      between.node? (above ++ [name]) ≠ some .folder ∧
      ∀ at_, (t.place p content).2.node? at_ =
        if at_ = above ++ [name] then some (.file content) else between.node? at_ := by
  have adds := makeParent_adds t p
  unfold place at placed ⊢
  split at placed
  · cases placed
  · rename_i between made
    rw [made] at adds
    split at placed
    · cases placed
    · rename_i t' written
      obtain ⟨above, name, -, names, leaf, changed⟩ := write_eq_ok written
      exact ⟨between, above, name, adds, keeps_of_leaf leaf changed, names, leaf, changed⟩

theorem place_eq_error {content : α} {fault : Fault}
    (refused : (t.place p content).1 = .error fault) :
    AddsFolders t (t.place p content).2 [] p.pieces.dropLast := by
  have adds := makeParent_adds t p
  unfold place at refused ⊢
  split at refused
  · rename_i fault' between made
    rwa [made] at adds
  · rename_i between made
    rw [made] at adds
    split at refused
    · exact adds
    · cases refused

end Hotkeys.Files.Tree
