import Hotkeys.Text.Basic
import Mathlib.Data.List.DropRight

/-!
# Trimming

A text is its trimmed part with blanks on both sides, and the trimmed part has no blank at its
ends. So blanks around a text do not count, and what is not blank is never lost.
-/

namespace Hotkeys.Text

variable {cs lead trail front rest : List Char} {c : Char}

/-- Nothing but blanks. -/
def Blank (cs : List Char) : Prop := ∀ c ∈ cs, isBlank c = true

theorem Blank.append (first : Blank lead) (second : Blank trail) : Blank (lead ++ trail) := by
  intro c member
  cases List.mem_append.mp member with
  | inl left => exact first c left
  | inr right => exact second c right

theorem Blank.notMem (blank : Blank cs) (solid : isBlank c = false) : c ∉ cs := by
  intro member
  exact absurd (blank c member) (by simp [solid])

/-! ## One end -/

theorem trimEnd_eq_nil_iff : trimEnd cs = [] ↔ Blank cs := List.rdropWhile_eq_nil_iff

theorem exists_trimStart (cs : List Char) : ∃ lead, Blank lead ∧ cs = lead ++ trimStart cs :=
  ⟨cs.takeWhile isBlank, fun _ => List.mem_takeWhile_imp, List.takeWhile_append_dropWhile.symm⟩

theorem exists_trimEnd (cs : List Char) : ∃ trail, Blank trail ∧ cs = trimEnd cs ++ trail :=
  ⟨cs.rtakeWhile isBlank, fun _ => List.mem_rtakeWhile_imp,
    (List.rdropWhile_append_rtakeWhile ..).symm⟩

theorem trimStart_append_left (blank : Blank lead) : trimStart (lead ++ cs) = trimStart cs :=
  List.dropWhile_append_of_pos blank

theorem trimEnd_append_right (blank : Blank trail) : trimEnd (cs ++ trail) = trimEnd cs := by
  unfold trimEnd
  rw [List.reverse_append, List.dropWhile_append_of_pos]
  intro c member
  exact blank c (List.mem_reverse.mp member)

/-- A character that is not blank ends the trimming of what stands before it. -/
theorem trimStart_append_cons (solid : isBlank c = false) :
    trimStart (front ++ c :: rest) = trimStart front ++ c :: rest := by
  unfold trimStart
  rw [List.dropWhile_append]
  split
  · rename_i emptied
    rw [List.isEmpty_iff.mp emptied, List.dropWhile_cons_of_neg (by simp [solid])]
    rfl
  · rfl

theorem trimEnd_append_cons (solid : isBlank c = false) :
    trimEnd (front ++ c :: rest) = front ++ c :: trimEnd rest := by
  have mirrored : trimStart (rest.reverse ++ c :: front.reverse) =
      trimStart rest.reverse ++ c :: front.reverse := trimStart_append_cons solid
  unfold trimStart at mirrored
  simp [trimEnd, mirrored]

/-! ## Both ends -/

/-- A text is its trimmed part with blanks around it. -/
theorem exists_trim (cs : List Char) :
    ∃ lead trail, Blank lead ∧ Blank trail ∧ cs = lead ++ trim cs ++ trail := by
  obtain ⟨lead, before, start⟩ := exists_trimStart cs
  obtain ⟨trail, after, stop⟩ := exists_trimEnd (trimStart cs)
  refine ⟨lead, trail, before, after, ?_⟩
  calc cs = lead ++ trimStart cs := start
    _ = lead ++ (trim cs ++ trail) := congrArg _ stop
    _ = lead ++ trim cs ++ trail := (List.append_assoc ..).symm

theorem trim_append_cons (solid : isBlank c = false) :
    trim (front ++ c :: rest) = trimStart front ++ c :: trimEnd rest := by
  unfold trim
  rw [trimStart_append_cons solid, trimEnd_append_cons solid]

theorem trim_append_left (blank : Blank lead) : trim (lead ++ cs) = trim cs := by
  unfold trim
  rw [trimStart_append_left blank]

theorem trim_append_right (blank : Blank trail) : trim (cs ++ trail) = trim cs := by
  unfold trim trimStart
  rw [List.dropWhile_append]
  split
  · rename_i emptied
    rw [List.isEmpty_iff.mp emptied, List.dropWhile_eq_nil_iff.mpr blank]
  · exact trimEnd_append_right blank

@[simp] theorem trim_trim (cs : List Char) : trim (trim cs) = trim cs := by
  obtain ⟨lead, trail, before, after, split⟩ := exists_trim cs
  conv_rhs => rw [split]
  rw [trim_append_right after, trim_append_left before]

theorem trim_trimEnd (cs : List Char) : trim (trimEnd cs) = trim cs := by
  obtain ⟨trail, blank, split⟩ := exists_trimEnd cs
  conv_rhs => rw [split]
  exact (trim_append_right blank).symm

/-- Trimming leaves nothing of blanks alone. -/
theorem trim_eq_nil_iff : trim cs = [] ↔ Blank cs := by
  constructor
  · intro nothing
    obtain ⟨lead, trail, before, after, split⟩ := exists_trim cs
    rw [split, nothing, List.append_nil]
    exact before.append after
  · intro blank
    rw [← List.append_nil cs, trim_append_left blank]
    rfl

/-- What is not blank survives. -/
theorem mem_trim_iff (solid : isBlank c = false) : c ∈ trim cs ↔ c ∈ cs := by
  obtain ⟨lead, trail, before, after, split⟩ := exists_trim cs
  conv_rhs => rw [split]
  simp [before.notMem solid, after.notMem solid]

/-- The trimmed part does not end with a blank. -/
theorem isBlank_getLast_trim (solid : trim cs ≠ []) : isBlank ((trim cs).getLast solid) = false :=
  Bool.eq_false_iff.mpr (List.rdropWhile_last_not isBlank (trimStart cs) solid)

theorem trim_eq_self_of_solid (solid : ∀ c ∈ cs, isBlank c = false) : trim cs = cs := by
  obtain ⟨lead, trail, before, after, split⟩ := exists_trim cs
  have nothing : ∀ part, Blank part → (∀ c ∈ part, c ∈ cs) → part = [] := by
    intro part blank within
    refine List.eq_nil_iff_forall_not_mem.mpr fun c member => ?_
    exact blank.notMem (solid c (within c member)) member
  have none_before : lead = [] := nothing lead before fun c member => by
    rw [split]
    simp [member]
  have none_after : trail = [] := nothing trail after fun c member => by
    rw [split]
    simp [member]
  conv_rhs => rw [split, none_before, none_after]
  simp

end Hotkeys.Text
