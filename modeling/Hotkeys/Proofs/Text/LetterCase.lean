import Hotkeys.Proofs.Text.Hexadecimal
import Hotkeys.Proofs.Text.Trim
import Hotkeys.Text.Basic
import Mathlib.Data.List.Forall2

/-!
# The case of letters

Changing the case of ASCII letters changes neither what is blank nor the lower case of a text nor
the number that is read from it.
-/

namespace Hotkeys.Text

/-- The text with its ASCII letters in lower case. -/
def lowered (cs : List Char) : List Char := cs.map Char.toLower

/-- A character is its own lower case, or one of the capital letters. -/
theorem toLower_cases (c : Char) : c.toLower = c ∨ ∃ d : Fin 26, c = Char.ofNat (65 + d.val) := by
  by_cases capital : c.val ≥ 'A'.val ∧ c.val ≤ 'Z'.val
  · right
    have low : 65 ≤ c.toNat := capital.1
    have high : c.toNat ≤ 90 := capital.2
    refine ⟨⟨c.toNat - 65, by omega⟩, ?_⟩
    rw [Nat.add_sub_cancel' low, Char.ofNat_toNat]
  · left
    unfold Char.toLower
    rw [dif_neg capital]

/-- What tells no capital letter from its lower case tells no letter from its lower case. -/
theorem map_toLower {α : Type} (f : Char → α)
    (capitals : ∀ d : Fin 26, f (Char.ofNat (65 + d.val)).toLower = f (Char.ofNat (65 + d.val)))
    (c : Char) : f c.toLower = f c := by
  obtain same | ⟨d, rfl⟩ := toLower_cases c
  · rw [same]
  · exact capitals d

@[simp] theorem isBlank_toLower (c : Char) : isBlank c.toLower = isBlank c :=
  map_toLower isBlank (by decide) c

@[simp] theorem lowerChar_toLower (c : Char) : lowerChar c.toLower = lowerChar c :=
  map_toLower lowerChar (by decide) c

@[simp] theorem hexValue?_toLower (c : Char) : hexValue? c.toLower = hexValue? c :=
  map_toLower hexValue? (by decide) c

/-- A character that is no letter is the lower case of itself alone. -/
theorem toLower_eq_iff {k : Char}
    (plain : ∀ d : Fin 26, (Char.ofNat (65 + d.val)).toLower ≠ k ∧ Char.ofNat (65 + d.val) ≠ k)
    (c : Char) : c.toLower = k ↔ c = k := by
  obtain same | ⟨d, rfl⟩ := toLower_cases c
  · rw [same]
  · exact iff_of_false (plain d).1 (plain d).2

/-! ## Whole texts -/

theorem lower_lowered (cs : List Char) : lower (lowered cs) = lower cs := by
  simp [lower, lowered, Function.comp_def]

/-- Letter case and blanks have nothing to do with each other. -/
theorem trim_lowered (cs : List Char) : trim (lowered cs) = lowered (trim cs) := by
  have alike : isBlank ∘ Char.toLower = isBlank := funext isBlank_toLower
  simp only [trim, trimEnd, trimStart, lowered, List.dropWhile_map, ← List.map_reverse, alike]

theorem hexNumber?_lowered (cs : List Char) : hexNumber? (lowered cs) = hexNumber? cs := by
  simp [hexNumber?, lowered, List.foldlM_map]

theorem unsigned_lowered (cs : List Char) : unsigned (lowered cs) = lowered (unsigned cs) := by
  by_cases signed : ∃ ds, cs = '+' :: ds
  · obtain ⟨ds, rfl⟩ := signed
    rfl
  · have bare : ∀ ds, cs ≠ '+' :: ds := not_exists.mp signed
    have bare' : ∀ ds, lowered cs ≠ '+' :: ds := by
      intro ds same
      obtain ⟨c, rest, rfl, plus, -⟩ := List.map_eq_cons_iff.mp same
      exact bare rest (by rw [(toLower_eq_iff (by decide) c).mp plus])
    rw [unsigned_eq_self bare, unsigned_eq_self bare']

/-- Letter case makes no difference to a hexadecimal word. -/
theorem word32OfHex?_lowered (cs : List Char) : word32OfHex? (lowered cs) = word32OfHex? cs := by
  have empty : lowered (unsigned cs) = [] ↔ unsigned cs = [] := List.map_eq_nil_iff
  simp only [word32OfHex?_eq, unsigned_lowered, hexNumber?_lowered, empty]

/-! ## Beyond ASCII -/

/-- A text that Unicode may have for the lower case of a character: the one of `lowerChar`, or, if
that one is beyond ASCII, any text that is not all ASCII. The lower case of some characters is
several characters, and that of others depends on where they stand. -/
def LowerCaseOf (c : Char) (ds : List Char) : Prop :=
  ds = [lowerChar c] ∨ 128 ≤ (lowerChar c).toNat ∧ ∃ d ∈ ds, 128 ≤ d.toNat

/-- The lower case of a text in Unicode is `lower` of it, or neither is an ASCII text. -/
theorem flatten_eq_or_beyond {cs : List Char} {parts : List (List Char)}
    (lowercase : List.Forall₂ LowerCaseOf cs parts) :
    parts.flatten = lower cs ∨
      (∃ d ∈ parts.flatten, 128 ≤ d.toNat) ∧ ∃ d ∈ lower cs, 128 ≤ d.toNat := by
  induction lowercase with
  | nil => exact .inl rfl
  | cons first _ ih =>
    simp only [List.flatten_cons, lower, List.map_cons, List.mem_append, List.mem_cons]
    obtain rfl | ⟨beyond, d, member, beyond'⟩ := first
    · obtain same | ⟨⟨d, member, beyond⟩, d', member', beyond'⟩ := ih
      · exact .inl (congrArg _ same)
      · exact .inr ⟨⟨d, .inr member, beyond⟩, d', .inr member', beyond'⟩
    · exact .inr ⟨⟨d, .inl member, beyond'⟩, _, .inl rfl, beyond⟩

end Hotkeys.Text
