import Hotkeys.Json.Number
import Mathlib.Data.List.Basic

/-!
# Decimal numbers

A number that is written in decimal has no digit too many in front, and taking its digits in one
after the other gives the number again.
-/

namespace Hotkeys.Text

open Json.Number

/-- The value of a list of digits, taken in behind a number. -/
def digitsValue (n : Nat) (ds : List Char) : Nat :=
  ds.foldl (fun n c => 10 * n + digitValue c) n

theorem digitsValue_concat (n : Nat) (ds : List Char) (c : Char) :
    digitsValue n (ds ++ [c]) = 10 * digitsValue n ds + digitValue c :=
  List.foldl_concat ..

theorem le_digitsValue (n : Nat) (ds : List Char) : n ≤ digitsValue n ds := by
  induction ds generalizing n with
  | nil => exact Nat.le_refl n
  | cons c rest ih =>
    have step : n ≤ 10 * n + digitValue c := by omega
    exact Nat.le_trans step (ih _)

theorem isDigit_digitChar {d : Nat} (small : d < 10) : (digitChar d).isDigit = true := by
  have all : ∀ d : Fin 10, (digitChar d).isDigit = true := by decide
  exact all ⟨d, small⟩

theorem digitValue_digitChar {d : Nat} (small : d < 10) : digitValue (digitChar d) = d := by
  have all : ∀ d : Fin 10, digitValue (digitChar d) = d.val := by decide
  exact all ⟨d, small⟩

theorem digitChar_ne_zero {d : Nat} (small : d < 10) (positive : 0 < d) : digitChar d ≠ '0' := by
  have all : ∀ d : Fin 10, 0 < d.val → digitChar d ≠ '0' := by decide
  exact all ⟨d, small⟩ positive

/-- The last digit of a number, behind the digits in front of it. -/
theorem decimal_of_le {n : Nat} (large : 10 ≤ n) :
    decimal n = decimal (n / 10) ++ [digitChar (n % 10)] := by
  rw [decimal, digits, dif_neg (Nat.not_lt.mpr large)]
  rfl

theorem decimal_of_lt {n : Nat} (small : n < 10) : decimal n = [digitChar n] := by
  rw [decimal, digits, dif_pos small]

theorem isDigit_of_mem_decimal {n : Nat} : ∀ c ∈ decimal n, c.isDigit = true := by
  induction n using Nat.strongRecOn with
  | ind n ih =>
    intro c member
    by_cases small : n < 10
    · rw [decimal_of_lt small] at member
      cases List.mem_singleton.mp member
      exact isDigit_digitChar small
    · rw [decimal_of_le (Nat.not_lt.mp small)] at member
      cases List.mem_append.mp member with
      | inl front => exact ih (n / 10) (by omega) c front
      | inr last =>
        cases List.mem_singleton.mp last
        exact isDigit_digitChar (Nat.mod_lt n (by decide))

/-- A number is the value of its decimal digits. -/
theorem digitsValue_decimal (n : Nat) : digitsValue 0 (decimal n) = n := by
  induction n using Nat.strongRecOn with
  | ind n ih =>
    by_cases small : n < 10
    · rw [decimal_of_lt small]
      simp [digitsValue, digitValue_digitChar small]
    · rw [decimal_of_le (Nat.not_lt.mp small), digitsValue_concat, ih (n / 10) (by omega),
        digitValue_digitChar (Nat.mod_lt n (by decide)), Nat.div_add_mod]

/-- Only zero is written with a zero in front. -/
theorem exists_decimal {n : Nat} (positive : 0 < n) : ∃ c ds, decimal n = c :: ds ∧ c ≠ '0' := by
  induction n using Nat.strongRecOn with
  | ind n ih =>
    by_cases small : n < 10
    · exact ⟨_, [], decimal_of_lt small, digitChar_ne_zero small positive⟩
    · obtain ⟨c, ds, front, different⟩ := ih (n / 10) (by omega) (by omega)
      refine ⟨c, ds ++ [digitChar (n % 10)], ?_, different⟩
      rw [decimal_of_le (Nat.not_lt.mp small), front]
      rfl

end Hotkeys.Text

namespace Hotkeys.Json.Number

open Text

variable {ds rest : List Char}

/-- Digits are taken in as long as they fit 64 bits, and up to the first other character. -/
theorem absorb_digits (digits : ∀ c ∈ ds, c.isDigit = true) {n : Nat}
    (fits : digitsValue n ds < UInt64.size) (ends : startsWithDigit rest = false) :
    absorb n (ds ++ rest) = (digitsValue n ds, rest) := by
  induction ds generalizing n with
  | nil =>
    cases rest with
    | nil => rfl
    | cons c rest =>
      have other : c.isDigit = false := ends
      simp [absorb, other, digitsValue]
  | cons c ds ih =>
    have small : 10 * n + digitValue c < UInt64.size :=
      Nat.lt_of_le_of_lt (le_digitsValue _ ds) fits
    have digit : c.isDigit = true := digits c List.mem_cons_self
    rw [List.cons_append, absorb, if_pos ⟨digit, small⟩]
    exact ih (fun d member => digits d (List.mem_cons_of_mem c member)) fits

theorem dropDigits_of_ends (ends : startsWithDigit rest = false) : dropDigits rest = rest := by
  cases rest with
  | nil => rfl
  | cons c rest =>
    have other : c.isDigit = false := ends
    simp [dropDigits, other]

/-- What cannot stand behind a number without changing it. -/
def continues : List Char → Bool
  | c :: _ => c.isDigit || c == '.' || c == 'e' || c == 'E'
  | [] => false

/-- A number that fits 64 bits is read back. -/
theorem read_decimal {n : Nat} (fits : n < UInt64.size) (ends : continues rest = false) :
    read true (decimal n ++ rest) = .ok (.natural n, rest) := by
  have other : startsWithDigit rest = false := by
    cases rest with
    | nil => rfl
    | cons c rest => simp_all [continues, startsWithDigit]
  have whole : dropDigits rest = rest := dropDigits_of_ends other
  obtain rfl | positive := Nat.eq_zero_or_pos n
  · have zero : decimal 0 = ['0'] := decimal_of_lt (by decide)
    rw [zero, List.cons_append, List.nil_append, read]
    have digit : '0'.isDigit = true := by decide
    simp only [other, whole, digit, Nat.sub_self, and_false, if_false, if_true, not_true,
      Bool.false_eq_true]
    split <;> simp_all [continues]
  · obtain ⟨c, ds, written, nonzero⟩ := exists_decimal positive
    have digits : ∀ d ∈ c :: ds, d.isDigit = true := written ▸ isDigit_of_mem_decimal
    have value : digitsValue (digitValue c) ds = n := by
      have read := digitsValue_decimal n
      rw [written] at read
      simpa [digitsValue] using read
    have taken : absorb (digitValue c) (ds ++ rest) = (n, rest) := by
      rw [absorb_digits (fun d member => digits d (List.mem_cons_of_mem c member))
        (value ▸ fits) other, value]
    rw [written, List.cons_append, read]
    simp only [nonzero, digits c List.mem_cons_self, taken, whole, false_and, if_false, not_true,
      Nat.sub_self]
    split <;> simp_all [continues]

end Hotkeys.Json.Number
