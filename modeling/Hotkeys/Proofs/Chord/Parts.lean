import Hotkeys.Proofs.Chord.Grammar

/-!
# Names in front of a key, in one text or one by one

Names of modifiers are split off a text in two ways. Both cut at every plus sign, and the one for
texts of combinations has to find the key first. They differ in what a blank piece is: a fault of
the text, or nothing.
-/

namespace Hotkeys.Chord

open Text

variable {cs key : List Char} {c : Chord}

/-- The pieces of a text with something in them, without the blanks around it. -/
def solidPieces (cs : List Char) : List (List Char) :=
  ((cs.splitOn '+').map trim).filter fun piece => piece ≠ []

theorem plus_notMem_of_mem_splitOn {piece : List Char} (member : piece ∈ cs.splitOn '+') :
    '+' ∉ piece := by
  induction cs generalizing piece with
  | nil =>
    rw [List.splitOn_nil, List.mem_singleton] at member
    simp [member]
  | cons c cs ih =>
    rw [List.splitOn_cons_eq_if_modifyHead] at member
    obtain ⟨first, rest, split⟩ := List.exists_cons_of_ne_nil (List.splitOn_ne_nil '+' cs)
    rw [split] at member ih
    by_cases sign : c = '+'
    · rw [if_pos (by simpa using sign), List.mem_cons] at member
      obtain rfl | member := member
      · exact List.not_mem_nil
      · exact ih member
    · rw [if_neg (by simpa using sign), List.modifyHead_cons, List.mem_cons] at member
      obtain rfl | member := member
      · exact List.not_mem_cons_of_ne_of_not_mem (Ne.symm sign) (ih List.mem_cons_self)
      · exact ih (List.mem_cons_of_mem _ member)

/-- The key is found behind the last plus sign of a text if it has none itself but at its end. -/
theorem parse_front_iff (solid : trim key ≠ []) (last : '+' ∉ (trim key).dropLast) {s : String}
    (text : s.toList = cs ++ '+' :: key) : parse s = .ok c ↔ Denote (cs.splitOn '+') key c := by
  have whole : s.toList = joined (cs.splitOn '+') key := by
    rw [text, joined_of_ne_nil (List.splitOn_ne_nil '+' cs), List.intercalate_splitOn]
  obtain ⟨found, cut⟩ :=
    pieces_joined (fun _ member => plus_notMem_of_mem_splitOn member) solid last
  rw [parse_eq_ok_iff, whole]
  exact Denote.trim_iff found cut

/-- A piece that names a modifier is not blank. -/
theorem Denote.filled {modifiers : List (List Char)} (denote : Denote modifiers key c) :
    ∀ piece ∈ modifiers, trim piece ≠ [] := by
  obtain ⟨-, ms, named, -⟩ := denote
  intro piece member blank
  have known : Modifier.named? piece ∈ ms.map some := named ▸ List.mem_map_of_mem member
  rw [← Modifier.named?_trim, blank, Modifier.named?_nil] at known
  simp at known

theorem solidPieces_of_filled (filled : ∀ piece ∈ cs.splitOn '+', trim piece ≠ []) :
    solidPieces cs = (cs.splitOn '+').map trim := by
  refine List.filter_eq_self.mpr fun piece within => ?_
  obtain ⟨bare, member, rfl⟩ := List.mem_map.mp within
  simpa using filled bare member

/-- To leave blank pieces out makes a difference only where there are some. -/
theorem denote_splitOn_iff :
    Denote (cs.splitOn '+') key c ↔
      Denote (solidPieces cs) key c ∧ ∀ piece ∈ cs.splitOn '+', trim piece ≠ [] := by
  have trimmed : (cs.splitOn '+').map trim = ((cs.splitOn '+').map trim).map trim := by
    simp only [List.map_map, Function.comp_def, trim_trim]
  constructor
  · intro denote
    refine ⟨?_, denote.filled⟩
    rw [solidPieces_of_filled denote.filled]
    exact (Denote.trim_iff trimmed rfl).mp denote
  · rintro ⟨denote, filled⟩
    rw [solidPieces_of_filled filled] at denote
    exact (Denote.trim_iff trimmed rfl).mpr denote

end Hotkeys.Chord
