import Hotkeys.Proofs.Chord.Grammar

/-!
# The canonical text of a combination

A combination is written as the names of its modifiers and the name of its key, joined by plus
signs, and is read back from this text. So the texts that are read fall into classes, and each class
has one text that is written.
-/

namespace Hotkeys.Chord

open Text

/-- The canonical text is made of the names of the modifiers and the text of the key. -/
theorem toList_text (c : Chord) :
    c.text.toList =
      joined (c.modifiers.toList.map fun m => m.name.toList) (keyText c.key) := by
  unfold text chars
  rw [String.toList_ofList]
  generalize c.modifiers.toList = ms
  induction ms with
  | nil => simp
  | cons m ms ih =>
    rw [List.map_cons, joined_cons, ← ih]
    simp

/-- The names that are written stand for the combination. -/
theorem denote_names (c : Chord) :
    Denote (c.modifiers.toList.map fun m => m.name.toList) (keyText c.key) c := by
  refine ⟨read?_keyText c.key, c.modifiers.toList, ?_, ModifierSet.ofList_toList c.modifiers⟩
  simp only [List.map_map, Function.comp_def, Modifier.named?_name]

/-- A combination is read back from its canonical text. -/
theorem parse_text (c : Chord) : parse c.text = .ok c :=
  parse_joined (denote_names c) (plus_notMem_dropLast_keyText c.key) (toList_text c)

/-- No two combinations share a text. -/
theorem text_injective : Function.Injective text := by
  intro c c' same
  have read := parse_text c
  rw [same, parse_text] at read
  exact (Except.ok.inj read).symm

/-- The canonical text of what has been read is read as the same, and is its own canonical text. -/
theorem parse_of_written {s t : String} (written : (parse s).map text = .ok t) :
    parse t = parse s ∧ (parse t).map text = .ok t := by
  cases read : parse s with
  | error e =>
    rw [read] at written
    cases written
  | ok c =>
    rw [read] at written
    cases written
    rw [parse_text]
    exact ⟨rfl, rfl⟩

/-- Every combination is read back from its canonical text. So no two combinations share a text,
and the canonical text of what has been read from any text is read as the same and is its own
canonical text. -/
theorem parse_canonical :
    (∀ c : Chord, parse c.text = .ok c) ∧ Function.Injective text ∧
      ∀ s t, (parse s).map text = .ok t → parse t = parse s ∧ (parse t).map text = .ok t :=
  ⟨parse_text, text_injective, fun _ _ written => parse_of_written written⟩

end Hotkeys.Chord
