import Hotkeys.Text.Basic
import Hotkeys.Text.Number

/-!
# Hexadecimal numbers

A number that is written in hexadecimal is read back, also with a zero in front, and nothing but
digits is written.
-/

namespace Hotkeys.Text

/-- The digits that are written. -/
def IsHexDigit (c : Char) : Prop := ∃ d : Fin 16, c = digitChar d

theorem IsHexDigit.ne_plus {c : Char} (digit : IsHexDigit c) : c ≠ '+' := by
  obtain ⟨d, rfl⟩ := digit
  revert d
  decide

theorem IsHexDigit.isBlank {c : Char} (digit : IsHexDigit c) : isBlank c = false := by
  obtain ⟨d, rfl⟩ := digit
  revert d
  decide

theorem hexValue?_digitChar {d : Nat} (small : d < 16) : hexValue? (digitChar d) = some d := by
  have all : ∀ d : Fin 16, hexValue? (digitChar d) = some d.val := by decide
  exact all ⟨d, small⟩

theorem isHexDigit_digitChar {d : Nat} (small : d < 16) : IsHexDigit (digitChar d) :=
  ⟨⟨d, small⟩, rfl⟩

theorem hexNumber?_concat (cs : List Char) (c : Char) :
    hexNumber? (cs ++ [c]) =
      (hexNumber? cs).bind fun n => (hexValue? c).map (16 * n + ·) := by
  unfold hexNumber?
  rw [List.foldlM_append]
  cases List.foldlM (fun n c => (hexValue? c).map (16 * n + ·)) 0 cs with
  | none => rfl
  | some n => simp

/-- A number is read back from its hexadecimal digits. -/
theorem hexNumber?_hexadecimal (n : Nat) : hexNumber? (hexadecimal n) = some n := by
  unfold hexadecimal
  induction n using Nat.strongRecOn with
  | ind n ih =>
    rw [digits]
    split
    · rename_i small
      simp [hexNumber?, hexValue?_digitChar small]
    · rename_i large
      have smaller : n / 16 < n := Nat.div_lt_self (by omega) (by decide)
      have last : n % 16 < 16 := Nat.mod_lt n (by decide)
      rw [hexNumber?_concat, ih _ smaller, hexValue?_digitChar last]
      change some (16 * (n / 16) + n % 16) = some n
      rw [Nat.div_add_mod]

theorem isHexDigit_of_mem_hexadecimal {n : Nat} : ∀ c ∈ hexadecimal n, IsHexDigit c := by
  unfold hexadecimal
  induction n using Nat.strongRecOn with
  | ind n ih =>
    rw [digits]
    split
    · rename_i small
      intro c member
      cases List.mem_singleton.mp member
      exact isHexDigit_digitChar small
    · rename_i large
      have smaller : n / 16 < n := Nat.div_lt_self (by omega) (by decide)
      intro c member
      cases List.mem_append.mp member with
      | inl front => exact ih _ smaller c front
      | inr last =>
        cases List.mem_singleton.mp last
        exact isHexDigit_digitChar (Nat.mod_lt n (by decide))

theorem hexNumber?_hexPadded (n : Nat) : hexNumber? (hexPadded n) = some n := by
  have zero : ∀ cs, hexNumber? ('0' :: cs) = hexNumber? cs := fun cs => rfl
  unfold hexPadded
  dsimp only
  split
  · rw [zero, hexNumber?_hexadecimal]
  · exact hexNumber?_hexadecimal n

theorem isHexDigit_of_mem_hexPadded {n : Nat} : ∀ c ∈ hexPadded n, IsHexDigit c := by
  intro c member
  unfold hexPadded at member
  dsimp only at member
  split at member
  · cases List.mem_cons.mp member with
    | inl zero => exact zero ▸ isHexDigit_digitChar (d := 0) (by decide)
    | inr digit => exact isHexDigit_of_mem_hexadecimal c digit
  · exact isHexDigit_of_mem_hexadecimal c member

theorem hexPadded_ne_nil (n : Nat) : hexPadded n ≠ [] := by
  unfold hexPadded
  dsimp only
  split
  · simp
  · rename_i long
    intro nothing
    exact long (by simp [nothing])

/-! ## Words of 32 bits -/

/-- The text without the plus sign that may stand in front of a number. -/
def unsigned : List Char → List Char
  | '+' :: ds => ds
  | cs => cs

theorem unsigned_eq_self {cs : List Char} (bare : ∀ ds, cs ≠ '+' :: ds) : unsigned cs = cs := by
  unfold unsigned
  split
  · exact absurd rfl (bare _)
  · rfl

/-- The word of a number that fits in 32 bits. -/
def word32? (n : Nat) : Option UInt32 :=
  if n < UInt32.size then some (UInt32.ofNat n) else none

theorem word32?_eq_some_iff {n : Nat} {w : UInt32} : word32? n = some w ↔ n = w.toNat := by
  unfold word32?
  constructor
  · intro word
    split at word
    · rename_i fits
      cases word
      exact (UInt32.toNat_ofNat_of_lt fits).symm
    · cases word
  · rintro rfl
    simp [w.toNat_lt_size]

/-- A number that is too large is no word. -/
theorem word32?_eq_none_iff {n : Nat} : word32? n = none ↔ UInt32.size ≤ n := by
  simp [word32?]

theorem word32OfHex?_eq (cs : List Char) :
    word32OfHex? cs =
      if unsigned cs = [] then none else (hexNumber? (unsigned cs)).bind word32? := by
  have digits : ∀ ds, (if ds.isEmpty then none else (hexNumber? ds).bind word32?) =
      if ds = [] then none else (hexNumber? ds).bind word32? := by
    intro ds
    simp only [List.isEmpty_iff]
  unfold word32OfHex?
  split
  · exact digits _
  · rename_i bare
    rw [unsigned_eq_self bare]
    exact digits cs

/-- A word is read back from its digits. -/
theorem word32OfHex?_hexPadded (w : UInt32) : word32OfHex? (hexPadded w.toNat) = some w := by
  have bare : ∀ ds, hexPadded w.toNat ≠ '+' :: ds := by
    intro ds signed
    have plus : '+' ∈ hexPadded w.toNat := by simp [signed]
    exact (isHexDigit_of_mem_hexPadded '+' plus).ne_plus rfl
  rw [word32OfHex?_eq, unsigned_eq_self bare, if_neg (hexPadded_ne_nil _), hexNumber?_hexPadded]
  exact word32?_eq_some_iff.mpr rfl

end Hotkeys.Text
