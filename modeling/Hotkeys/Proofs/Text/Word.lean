import Hotkeys.Proofs.Text.Hexadecimal
import Hotkeys.Proofs.Text.LetterCase
import Mathlib.Data.List.Forall2
import Mathlib.Data.Nat.Digits.Defs

/-!
# Words in hexadecimal

A text is read as a word of 32 bits exactly if it is digits, behind one plus sign or none, of a
number that fits. The digits may be capitals or small letters and there may be any number of them,
since zeros in front do not count. Taking in the digits one by one in 32 bits and giving up at the
first that does not fit comes to the same.
-/

namespace Hotkeys.Text

variable {c : Char} {d : Nat} {cs ds : List Char} {n : Nat}

/-! ## Digits -/

/-- The character is the digit of this value, as a capital or a small letter above nine. -/
def IsDigitOf (c : Char) (d : Nat) : Prop :=
  d < 16 ∧ (c = digitChar d ∨ c = (digitChar d).toLower)

instance (c : Char) (d : Nat) : Decidable (IsDigitOf c d) := inferInstanceAs (Decidable (_ ∧ _))

theorem toNat_lt_of_hexValue? (value : hexValue? c = some d) : c.toNat < 128 := by
  unfold hexValue? at value
  split at value
  · rename_i decimal
    have high : c.toNat ≤ 57 := decimal.2
    omega
  · split at value
    · rename_i small
      have high : c.toNat ≤ 102 := small.2
      omega
    · split at value
      · rename_i capital
        have high : c.toNat ≤ 70 := capital.2
        omega
      · cases value

/-- The value of a digit. -/
theorem hexValue?_eq_some_iff : hexValue? c = some d ↔ IsDigitOf c d := by
  constructor
  · intro value
    have ascii : ∀ n : Fin 128, ∀ d ∈ hexValue? (Char.ofNat n), IsDigitOf (Char.ofNat n) d := by
      decide +kernel
    have digit := ascii ⟨c.toNat, toNat_lt_of_hexValue? value⟩ d
    rw [Char.ofNat_toNat] at digit
    exact digit value
  · rintro ⟨small, rfl | rfl⟩
    · exact hexValue?_digitChar small
    · rw [hexValue?_toLower, hexValue?_digitChar small]

theorem hexValue?_eq_none_iff : hexValue? c = none ↔ ∀ d, ¬ IsDigitOf c d := by
  simp only [Option.eq_none_iff_forall_ne_some, ne_eq, hexValue?_eq_some_iff]

/-! ## Numbers -/

/-- Digits of a number in base 16, the highest first and perhaps with zeros in front. -/
def HexSpells (ds : List Char) (n : Nat) : Prop :=
  ∃ values, List.Forall₂ IsDigitOf ds.reverse values ∧ Nat.ofDigits 16 values = n

theorem hexSpells_nil_iff : HexSpells [] n ↔ n = 0 := by
  simp [HexSpells, eq_comm]

theorem hexSpells_concat_iff :
    HexSpells (ds ++ [c]) n ↔ ∃ m d, HexSpells ds m ∧ IsDigitOf c d ∧ 16 * m + d = n := by
  unfold HexSpells
  rw [List.reverse_concat]
  constructor
  · rintro ⟨values, all, rfl⟩
    obtain ⟨d, rest, digit, front, rfl⟩ := List.forall₂_cons_left_iff.mp all
    exact ⟨_, d, ⟨rest, front, rfl⟩, digit, by rw [Nat.ofDigits_cons, Nat.add_comm]⟩
  · rintro ⟨_, d, ⟨rest, front, rfl⟩, digit, rfl⟩
    exact ⟨d :: rest, .cons digit front, by rw [Nat.ofDigits_cons, Nat.add_comm]⟩

/-- The number that is read is the one that the digits spell. -/
theorem hexNumber?_eq_some_iff : hexNumber? ds = some n ↔ HexSpells ds n := by
  induction ds using List.reverseRecOn generalizing n with
  | nil => simp [hexSpells_nil_iff, hexNumber?, eq_comm]
  | append_singleton ds c ih =>
    simp only [hexNumber?_concat, hexSpells_concat_iff, Option.bind_eq_some_iff,
      Option.map_eq_some_iff, hexValue?_eq_some_iff, ih, exists_and_left]

/-- No number is read only where a character is no digit. -/
theorem hexNumber?_eq_none_iff : hexNumber? ds = none ↔ ∃ c ∈ ds, ∀ d, ¬ IsDigitOf c d := by
  induction ds using List.reverseRecOn with
  | nil => simp [hexNumber?]
  | append_singleton ds c ih =>
    have split : (∃ c' ∈ ds ++ [c], ∀ d, ¬ IsDigitOf c' d) ↔
        (∃ c' ∈ ds, ∀ d, ¬ IsDigitOf c' d) ∨ ∀ d, ¬ IsDigitOf c d := by
      simp [or_and_right, exists_or]
    rw [split, ← ih, ← hexValue?_eq_none_iff, hexNumber?_concat]
    cases hexNumber? ds <;> simp

/-- Zeros in front make no difference. -/
theorem hexNumber?_zeros (zeros : Nat) (ds : List Char) :
    hexNumber? (List.replicate zeros '0' ++ ds) = hexNumber? ds := by
  induction zeros with
  | zero => rfl
  | succ zeros ih =>
    rw [List.replicate_succ, List.cons_append, ← ih]
    rfl

/-! ## Words -/

/-- When a text stands for a 32-bit word. -/
theorem word32OfHex?_eq_some_iff {w : UInt32} :
    word32OfHex? cs = some w ↔ unsigned cs ≠ [] ∧ HexSpells (unsigned cs) w.toNat := by
  rw [word32OfHex?_eq]
  by_cases nothing : unsigned cs = []
  · simp [nothing]
  · simp [nothing, Option.bind_eq_some_iff, word32?_eq_some_iff, hexNumber?_eq_some_iff]

/-- What is not read has no digit, or a character that is none, or is too large. -/
theorem word32OfHex?_eq_none_iff :
    word32OfHex? cs = none ↔ unsigned cs = [] ∨ (∃ c ∈ unsigned cs, ∀ d, ¬ IsDigitOf c d) ∨
      ∃ n, UInt32.size ≤ n ∧ HexSpells (unsigned cs) n := by
  rw [word32OfHex?_eq, ← hexNumber?_eq_none_iff]
  simp only [← hexNumber?_eq_some_iff]
  by_cases nothing : unsigned cs = []
  · simp [nothing]
  · cases hexNumber? (unsigned cs) with
    | none => simp [nothing]
    | some n => simp [nothing, word32?_eq_none_iff]

/-- Zeros in front of the digits do not count, nor does the sign. -/
theorem word32OfHex?_zeros {cs' : List Char} {zeros : Nat} (digits : unsigned cs' ≠ [])
    (same : unsigned cs = List.replicate zeros '0' ++ unsigned cs') :
    word32OfHex? cs = word32OfHex? cs' := by
  have digits' : unsigned cs ≠ [] := by simp [same, digits]
  rw [word32OfHex?_eq, word32OfHex?_eq, if_neg digits, if_neg digits', same, hexNumber?_zeros]

/-- Takes in one more digit, as long as the result fits in 32 bits. -/
def takeDigit (w : UInt32) (c : Char) : Option UInt32 :=
  (hexValue? c).bind fun d =>
    if 16 * w.toNat + d < UInt32.size then some (16 * w + UInt32.ofNat d) else none

/-- Giving up at the first digit that does not fit is the same as looking at the whole number: the
digits behind it cannot make the number smaller. -/
theorem foldlM_takeDigit (ds : List Char) :
    ds.foldlM takeDigit 0 = (hexNumber? ds).bind word32? := by
  induction ds using List.reverseRecOn with
  | nil => rfl
  | append_singleton ds c ih =>
    rw [List.foldlM_append, ih, hexNumber?_concat]
    cases hexNumber? ds with
    | none => rfl
    | some n =>
      by_cases fits : n < UInt32.size
      · have same : (UInt32.ofNat n).toNat = n := UInt32.toNat_ofNat_of_lt fits
        cases value : hexValue? c with
        | none => simp [word32?, fits, takeDigit, value]
        | some d => simp [word32?, fits, takeDigit, value, same]
      · have grows : ∀ d, ¬ 16 * n + d < UInt32.size := by
          intro d
          omega
        cases hexValue? c <;> simp [word32?, fits, grows]

end Hotkeys.Text
