import Hotkeys.Proofs.Chord.Names

/-!
# The pieces of a combination

A text is cut into the piece of the key and the pieces of the modifiers. Up to blanks around the
pieces this undoes joining them with plus signs, as long as the key has no plus sign but at its end
and is not blank.
-/

namespace Hotkeys.Chord

open Text

variable {cs front key : List Char}

/-- The pieces of the modifiers and the piece of the key of a trimmed text. -/
def pieces (cs : List Char) : List (List Char) × List Char :=
  match cutKey cs with
  | some (front, key) => (front.splitOn '+', key)
  | none => ([], cs)

/-- Pieces with plus signs between them. -/
def joined (modifiers : List (List Char)) (key : List Char) : List Char :=
  ['+'].intercalate (modifiers ++ [key])

@[simp] theorem joined_nil (key : List Char) : joined [] key = key :=
  List.intercalate_singleton

theorem joined_cons (first : List Char) (rest : List (List Char)) (key : List Char) :
    joined (first :: rest) key = first ++ '+' :: joined rest key := by
  unfold joined
  rw [List.cons_append, List.intercalate_cons_of_ne_nil (by simp)]
  simp

theorem joined_of_ne_nil {modifiers : List (List Char)} (several : modifiers ≠ [])
    (key : List Char) : joined modifiers key = ['+'].intercalate modifiers ++ '+' :: key := by
  induction modifiers with
  | nil => exact absurd rfl several
  | cons first rest ih =>
    rw [joined_cons]
    by_cases alone : rest = []
    · simp [alone]
    · rw [ih alone, List.intercalate_cons_of_ne_nil alone]
      simp

/-! ## Cutting off the key -/

/-- A text is cut at the last plus sign that has something behind it. -/
theorem cutKey_eq_some_iff :
    cutKey cs = some (front, key) ↔
      ∃ rest, cs = front ++ '+' :: rest ∧ trim rest = key ∧ key ≠ [] ∧ cutKey rest = none := by
  induction cs generalizing front with
  | nil => simp [cutKey]
  | cons c cs ih =>
    simp only [cutKey]
    cases later : cutKey cs with
    | some found =>
      obtain ⟨front', key'⟩ := found
      constructor
      · rintro ⟨⟩
        obtain ⟨rest, rfl, trimmed, solid, last⟩ := ih.mp later
        exact ⟨rest, rfl, trimmed, solid, last⟩
      · rintro ⟨rest, split, trimmed, solid, last⟩
        cases front with
        | nil =>
          obtain ⟨-, rfl⟩ := List.cons_eq_cons.mp split
          exact absurd (last.symm.trans later) (by simp)
        | cons d front =>
          obtain ⟨rfl, rfl⟩ := List.cons_eq_cons.mp split
          have cut := ih.mpr ⟨rest, rfl, trimmed, solid, last⟩
          cases later.symm.trans cut
          rfl
    | none =>
      constructor
      · intro cut
        dsimp only at cut
        split at cut
        · rename_i here
          cases cut
          exact ⟨cs, by simp [here.1], rfl, here.2, later⟩
        · cases cut
      · rintro ⟨rest, split, trimmed, solid, last⟩
        cases front with
        | nil =>
          obtain ⟨rfl, rfl⟩ := List.cons_eq_cons.mp split
          simp [trimmed, solid]
        | cons d front =>
          obtain ⟨rfl, rfl⟩ := List.cons_eq_cons.mp split
          have cut := ih.mpr ⟨rest, rfl, trimmed, solid, last⟩
          exact absurd (later.symm.trans cut) (by simp)

/-- A text is not cut if every plus sign in it has blanks alone behind it. -/
theorem cutKey_eq_none_iff_forall :
    cutKey cs = none ↔ ∀ front rest, cs = front ++ '+' :: rest → Blank rest := by
  induction cs with
  | nil => simp [cutKey]
  | cons c cs ih =>
    simp only [cutKey]
    cases later : cutKey cs with
    | some found =>
      obtain ⟨rest, split, trimmed, solid, -⟩ := cutKey_eq_some_iff.mp later
      constructor
      · intro uncut
        cases uncut
      · intro all
        refine absurd ?_ solid
        rw [← trimmed, trim_eq_nil_iff]
        exact all (c :: found.1) rest (by rw [split, List.cons_append])
    | none =>
      have behind := ih.mp later
      constructor
      · intro uncut front rest split
        dsimp only at uncut
        cases front with
        | nil =>
          obtain ⟨rfl, rfl⟩ := List.cons_eq_cons.mp split
          simpa [trim_eq_nil_iff] using uncut
        | cons d front =>
          obtain ⟨-, tail⟩ := List.cons_eq_cons.mp split
          exact behind front rest tail
      · intro all
        dsimp only
        rw [if_neg]
        rintro ⟨rfl, solid⟩
        exact solid (trim_eq_nil_iff.mpr (all [] cs rfl))

/-- A text has no key to cut off if it has no plus sign but at its end. -/
theorem cutKey_eq_none_iff : cutKey cs = none ↔ '+' ∉ (trim cs).dropLast := by
  rw [cutKey_eq_none_iff_forall]
  have around : ∀ front rest : List Char,
      trim (front ++ '+' :: rest) = trimStart front ++ '+' :: trimEnd rest :=
    fun front rest => trim_append_cons (by decide)
  constructor
  · intro all inside
    obtain ⟨lead, trail, before, after, split⟩ := exists_trim cs
    obtain ⟨front, rest, here⟩ := List.append_of_mem inside
    have solid : trim cs ≠ [] := by
      intro nothing
      simp [nothing] at inside
    -- what follows the plus sign ends with the last character of the trimmed text
    have whole : trim cs = front ++ '+' :: (rest ++ [(trim cs).getLast solid]) := by
      conv_lhs => rw [← List.dropLast_append_getLast solid, here]
      simp
    have blank : Blank (rest ++ [(trim cs).getLast solid] ++ trail) := by
      refine all (lead ++ front) _ ?_
      conv_lhs => rw [split, whole]
      simp
    have last := blank ((trim cs).getLast solid) (by simp)
    rw [isBlank_getLast_trim solid] at last
    cases last
  · rintro outside front rest rfl
    rw [around, List.dropLast_append_cons] at outside
    by_contra solid
    have behind : trimEnd rest ≠ [] := fun nothing => solid (trimEnd_eq_nil_iff.mp nothing)
    rw [List.dropLast_cons_of_ne_nil behind] at outside
    simp at outside

/-! ## Splitting what stands before the key -/

/-- Blanks in front stay with the first piece. -/
theorem splitOn_append_left {lead : List Char} (blank : Blank lead) (cs : List Char) :
    ((lead ++ cs).splitOn '+').map trim = (cs.splitOn '+').map trim := by
  induction lead with
  | nil => rfl
  | cons c lead ih =>
    have bare : isBlank c = true := blank c List.mem_cons_self
    have other : (c == '+') = false := by
      refine beq_false_of_ne ?_
      rintro rfl
      exact absurd bare (by decide)
    have later := ih fun d member => blank d (List.mem_cons_of_mem c member)
    rw [← later, List.cons_append, List.splitOn_cons_eq_if_modifyHead, if_neg (by simp [other])]
    obtain ⟨first, rest, split⟩ := List.exists_cons_of_ne_nil
      (List.splitOn_ne_nil '+' (lead ++ cs))
    have single : Blank [c] := by simpa [Blank] using bare
    have trimmed : trim (c :: first) = trim first := by
      rw [← List.singleton_append, trim_append_left single]
    rw [split]
    simp [trimmed]

/-- Every text is its pieces joined, up to blanks around them. -/
theorem exists_joined (cs : List Char) :
    ∃ modifiers key, cs = joined modifiers key ∧ '+' ∉ (trim key).dropLast ∧
      modifiers.map trim = (pieces (trim cs)).1.map trim ∧
      trim key = trim (pieces (trim cs)).2 := by
  unfold pieces
  cases cut : cutKey (trim cs) with
  | none =>
    have plain := cutKey_eq_none_iff.mp cut
    rw [trim_trim] at plain
    exact ⟨[], cs, (joined_nil cs).symm, plain, rfl, (trim_trim cs).symm⟩
  | some found =>
    obtain ⟨front, key⟩ := found
    obtain ⟨rest, whole, rfl, -, last⟩ := cutKey_eq_some_iff.mp cut
    obtain ⟨lead, trail, before, after, split⟩ := exists_trim cs
    have same : trim (rest ++ trail) = trim rest := trim_append_right after
    refine ⟨(lead ++ front).splitOn '+', rest ++ trail, ?_, ?_, ?_, ?_⟩
    · rw [joined_of_ne_nil (List.splitOn_ne_nil '+' _), List.intercalate_splitOn, split, whole]
      simp
    · rw [same]
      exact cutKey_eq_none_iff.mp last
    · exact splitOn_append_left before front
    · rw [same, trim_trim]

/-- Pieces that have been joined are found again. -/
theorem pieces_joined {modifiers : List (List Char)} {key : List Char}
    (plain : ∀ piece ∈ modifiers, '+' ∉ piece) (solid : trim key ≠ [])
    (last : '+' ∉ (trim key).dropLast) :
    (pieces (trim (joined modifiers key))).1.map trim = modifiers.map trim ∧
      trim (pieces (trim (joined modifiers key))).2 = trim key := by
  unfold pieces
  cases modifiers with
  | nil =>
    have uncut : cutKey (trim key) = none := cutKey_eq_none_iff.mpr (by rwa [trim_trim])
    simp [uncut]
  | cons first rest =>
    have several : first :: rest ≠ [] := List.cons_ne_nil first rest
    have found : (['+'].intercalate (first :: rest)).splitOn '+' = first :: rest :=
      List.splitOn_intercalate '+' plain several
    rw [joined_of_ne_nil several, trim_append_cons (by decide)]
    generalize ['+'].intercalate (first :: rest) = before at found ⊢
    have cut : cutKey (trimStart before ++ '+' :: trimEnd key) =
        some (trimStart before, trim key) := by
      refine cutKey_eq_some_iff.mpr ⟨trimEnd key, rfl, trim_trimEnd key, solid, ?_⟩
      rw [cutKey_eq_none_iff, trim_trimEnd]
      exact last
    obtain ⟨lead, blank, split⟩ := exists_trimStart before
    rw [cut]
    refine ⟨?_, trim_trim key⟩
    dsimp only
    rw [← splitOn_append_left blank, ← split, found]

end Hotkeys.Chord
