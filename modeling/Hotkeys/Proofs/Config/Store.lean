import Hotkeys.Config.Store
import Hotkeys.Proofs.Config.Forms
import Hotkeys.Proofs.Files.Changes

/-!
# Saving, loading and deleting

What has been saved is loaded again, whatever was there before. Saving changes one file and makes
the folders that this file lies in; deleting takes one file away, and then the default configuration
is loaded.
-/

namespace Hotkeys.Config

open Files

variable {t t' : Files.Tree Content} {p : Path} {above : Way} {name : String}

/-! ## Loading -/

theorem load_of_text {s : String} (names : t.Names p above name)
    (there : t.node? (above ++ [name]) = some (.file (.text s))) : load t p = ofText s := by
  have found := names.find_of_there there
  have content := Tree.node?_eq_file_iff.mp there
  have read : t.read p = .ok (.text s) := by simp [Tree.read, found, content, Except.bind]
  simp [load, Tree.contains, found, read, Except.toBool, Except.mapError, Except.bind,
    Content.text?]

/-- Where there is no file, the default configuration is loaded. -/
theorem load_of_not_contains (absent : t.contains p = false) : load t p = .ok {} := by
  simp [load, absent]

/-- What is read from the text of a configuration is this configuration, if it is valid. -/
theorem ofText_prettyText (c : Config) :
    ofText c.json.prettyText =
      match c.validate with
      | .ok () => .ok c
      | .error reason => .error (.invalid reason) := by
  have parsed : parse c.json.prettyText = .ok c := parse_of_spells (Json.spells_prettyAt 0 c.json)
  simp only [ofText, parsed, Except.mapError, Except.bind, validated]
  cases c.validate <;> rfl

/-! ## Saving -/

theorem save_eq_ok {c : Config} (saved : (save t p c).1 = .ok ()) :
    (t.place p (.text c.json.prettyText)).1 = .ok () := by
  unfold save at saved
  dsimp only at saved
  cases placed : (t.place p (.text c.json.prettyText)).1 with
  | ok => rfl
  | error fault =>
    rw [placed] at saved
    cases saved

theorem save_eq_error {c : Config} {e : Problem} (refused : (save t p c).1 = .error e) :
    ∃ fault, (t.place p (.text c.json.prettyText)).1 = .error fault := by
  unfold save at refused
  dsimp only at refused
  cases placed : (t.place p (.text c.json.prettyText)).1 with
  | ok =>
    rw [placed] at refused
    cases refused
  | error fault => exact ⟨fault, rfl⟩

/-- What has been saved is loaded, if it is valid. -/
theorem load_save {c : Config} (saved : (save t p c).1 = .ok ()) :
    load (save t p c).2 p =
      match c.validate with
      | .ok () => .ok c
      | .error reason => .error (.invalid reason) := by
  obtain ⟨between, above, name, -, -, names, -, changed⟩ := Tree.place_eq_ok (save_eq_ok saved)
  have there := changed (above ++ [name])
  rw [if_pos rfl] at there
  exact (load_of_text names there).trans (ofText_prettyText c)

/-- What saving can change: a folder is made on the way to the file, or the file is written. -/
theorem save_changes (t : Files.Tree Content) (p : Path) (c : Config) (way : Way) :
    let t' := (save t p c).2
    t'.node? way = t.node? way ∨
      t.node? way = none ∧ t'.node? way = some .folder ∧
        (∃ front, front <+: p.pieces.dropLast ∧ t'.walk front = .ok way) ∨
      (save t p c).1 = .ok () ∧ t'.find p = .ok way ∧ t.node? way ≠ some .folder ∧
        t'.node? way = some (.file (.text c.json.prettyText)) := by
  intro t'
  cases saved : (save t p c).1 with
  | error e =>
    obtain ⟨fault, refused⟩ := save_eq_error saved
    obtain same | made := Tree.place_eq_error refused way
    · exact .inl same
    · exact .inr (.inl made)
  | ok =>
    obtain ⟨between, above, name, adds, kept, names, leaf, changed⟩ :=
      Tree.place_eq_ok (save_eq_ok saved)
    have written := changed way
    split at written
    · rename_i here
      subst here
      refine .inr (.inr ⟨rfl, names.find_of_there written, ?_, written⟩)
      exact fun folder => leaf (adds.keeps _ folder)
    · obtain same | ⟨absent, folder, front, within, walked⟩ := adds way
      · exact .inl (written.trans same)
      · exact .inr (.inl ⟨absent, written.trans folder, front, within, kept.walk walked folder⟩)

/-! ## Deleting -/

/-- Deleting takes the file away, if there is one. -/
theorem delete_eq_ok (deleted : delete t p = .ok t') :
    t.contains p = false ∧ t' = t ∨ t.remove p = .ok t' := by
  unfold delete at deleted
  split at deleted
  · right
    cases removed : t.remove p with
    | error fault =>
      rw [removed] at deleted
      cases deleted
    | ok t'' =>
      rw [removed] at deleted
      cases deleted
      rfl
  · rename_i absent
    cases deleted
    exact .inl ⟨by simpa using absent, rfl⟩

/-- After deleting, the default configuration is loaded. -/
theorem load_delete (deleted : delete t p = .ok t') : load t' p = .ok {} := by
  obtain ⟨absent, rfl⟩ | removed := delete_eq_ok deleted
  · exact load_of_not_contains absent
  · obtain ⟨above, name, content, -, names, -, changed⟩ := Tree.remove_eq_ok removed
    refine load_of_not_contains ?_
    rw [Tree.contains, names.find, changed, if_pos rfl]
    rfl

/-- Deleting changes nothing but the file. -/
theorem delete_changes (deleted : delete t p = .ok t') (way : Way) :
    t'.node? way = t.node? way ∨
      t.find p = .ok way ∧ (∃ content, t.node? way = some (.file content)) ∧
        t'.node? way = none := by
  obtain ⟨-, rfl⟩ | removed := delete_eq_ok deleted
  · exact .inl rfl
  · obtain ⟨above, name, content, names, -, file, changed⟩ := Tree.remove_eq_ok removed
    have after := changed way
    split at after
    · rename_i here
      subst here
      exact .inr ⟨names.find_of_there file, ⟨content, file⟩, after⟩
    · exact .inl after

/-- A configuration that has been saved is loaded again if it is valid, and otherwise the load says
what is wrong with it. Whether or not it succeeds, saving changes nothing but the file of the path
and makes nothing but missing folders on the way to it. After deleting, the default configuration is
loaded, and nothing but the file of the path is gone. -/
theorem load_after (t : Files.Tree Content) (p : Path) (c : Config) :
    let (saved, t') := save t p c
    (saved = .ok () → load t' p =
      match c.validate with
      | .ok () => .ok c
      | .error reason => .error (.invalid reason)) ∧
    (∀ way, t'.node? way = t.node? way ∨
      t.node? way = none ∧ t'.node? way = some .folder ∧
        (∃ front, front <+: p.pieces.dropLast ∧ t'.walk front = .ok way) ∨
      saved = .ok () ∧ t'.find p = .ok way ∧ t.node? way ≠ some .folder ∧
        t'.node? way = some (.file (.text c.json.prettyText))) ∧
    ∀ t'', delete t p = .ok t'' → load t'' p = .ok {} ∧
      ∀ way, t''.node? way = t.node? way ∨
        t.find p = .ok way ∧ (∃ content, t.node? way = some (.file content)) ∧
          t''.node? way = none :=
  ⟨load_save, save_changes t p c,
    fun _ deleted => ⟨load_delete deleted, delete_changes deleted⟩⟩

/-- A folder is made where it is missing, also if the path leads out of it again. -/
example : (save (.folder [("old", .file (.text "?"))]) (.ofText "new/deep/../../old") {}).1 =
    .ok () := rfl

end Hotkeys.Config
