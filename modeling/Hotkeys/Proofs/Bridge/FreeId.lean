import Hotkeys.Bridge.Basic
import Mathlib.Order.Bounds.Defs

/-!
# The least free identifier is the least one that is free

The candidates are the identifiers from the base on, up to and including the largest one.
-/

namespace Hotkeys

variable {taken : HotkeyId → Bool} {id : HotkeyId}

theorem firstFree_eq_some_iff {n base : Nat} (fits : base + n ≤ UInt32.size) :
    firstFree taken n base = some id ↔
      base ≤ id.toNat ∧ id.toNat < base + n ∧ taken id = false ∧
        ∀ other : HotkeyId, base ≤ other.toNat → other.toNat < id.toNat → taken other = true := by
  induction n generalizing base with
  | zero =>
    refine iff_of_false (by simp [firstFree]) ?_
    rintro ⟨lower, upper, -⟩
    omega
  | succ n ih =>
    have first : (UInt32.ofNat base).toNat = base := UInt32.toNat_ofNat_of_lt' (by omega)
    have only : ∀ other : HotkeyId, other.toNat = base → other = UInt32.ofNat base :=
      fun other same => UInt32.toNat_inj.mp (same.trans first.symm)
    rw [firstFree]
    cases free : taken (UInt32.ofNat base) with
    | false =>
      simp only [Bool.false_eq_true, if_false, Option.some.injEq]
      constructor
      · rintro rfl
        refine ⟨by omega, by omega, free, ?_⟩
        intro other lower upper
        omega
      · rintro ⟨lower, -, -, least⟩
        by_cases same : id.toNat = base
        · exact (only id same).symm
        · have held := least (UInt32.ofNat base) (by omega) (by omega)
          rw [free] at held
          cases held
    | true =>
      simp only [if_true]
      rw [ih (by omega)]
      constructor
      · rintro ⟨lower, upper, free', least⟩
        refine ⟨by omega, by omega, free', ?_⟩
        intro other lower' upper'
        by_cases same : other.toNat = base
        · rw [only other same]
          exact free
        · exact least other (by omega) upper'
      · rintro ⟨lower, upper, free', least⟩
        have different : id.toNat ≠ base := by
          intro same
          rw [only id same, free] at free'
          cases free'
        exact ⟨by omega, by omega, free', fun other lower' upper' => least other (by omega) upper'⟩

/-- An identifier is found if it is free and all candidates before it are taken. -/
theorem freeId_eq_some_iff {base : HotkeyId} :
    freeId taken base = some id ↔
      base ≤ id ∧ taken id = false ∧ ∀ other, base ≤ other → other < id → taken other = true := by
  have fits : base.toNat < UInt32.size := base.toNat_lt
  have small : id.toNat < UInt32.size := id.toNat_lt
  rw [freeId, firstFree_eq_some_iff (by omega)]
  simp only [UInt32.le_iff_toNat_le, UInt32.lt_iff_toNat_lt]
  constructor
  · rintro ⟨lower, -, found⟩
    exact ⟨lower, found⟩
  · rintro ⟨lower, found⟩
    exact ⟨lower, by omega, found⟩

/-- The free identifier that is found is the least one from the base on. -/
theorem freeId_eq_some_iff_isLeast {base : HotkeyId} :
    freeId taken base = some id ↔ IsLeast {id | base ≤ id ∧ taken id = false} id := by
  rw [freeId_eq_some_iff]
  constructor
  · rintro ⟨lower, free, least⟩
    refine ⟨⟨lower, free⟩, fun other ⟨lower', free'⟩ => UInt32.not_lt.mp fun before => ?_⟩
    rw [least other lower' before] at free'
    cases free'
  · rintro ⟨⟨lower, free⟩, least⟩
    refine ⟨lower, free, fun other lower' before => ?_⟩
    cases held : taken other with
    | true => rfl
    | false => exact absurd (least ⟨lower', held⟩) (UInt32.not_le.mpr before)

theorem firstFree_eq_none_iff {n base : Nat} (fits : base + n ≤ UInt32.size) :
    firstFree taken n base = none ↔
      ∀ id : HotkeyId, base ≤ id.toNat → id.toNat < base + n → taken id = true := by
  induction n generalizing base with
  | zero =>
    refine iff_of_true rfl ?_
    intro id lower upper
    omega
  | succ n ih =>
    have first : (UInt32.ofNat base).toNat = base := UInt32.toNat_ofNat_of_lt' (by omega)
    rw [firstFree]
    cases free : taken (UInt32.ofNat base) with
    | false =>
      refine iff_of_false (by simp) fun all => ?_
      have held := all (UInt32.ofNat base) (by omega) (by omega)
      rw [free] at held
      cases held
    | true =>
      simp only [if_true]
      rw [ih (by omega)]
      constructor
      · intro rest id lower upper
        by_cases same : id.toNat = base
        · rw [UInt32.toNat_inj.mp (same.trans first.symm)]
          exact free
        · exact rest id (by omega) (by omega)
      · exact fun all id lower upper => all id (by omega) (by omega)

/-- None is found if all candidates are taken, the largest identifier included. -/
theorem freeId_eq_none_iff {base : HotkeyId} :
    freeId taken base = none ↔ ∀ id, base ≤ id → taken id = true := by
  have fits : base.toNat < UInt32.size := base.toNat_lt
  rw [freeId, firstFree_eq_none_iff (by omega)]
  refine forall_congr' fun id => imp_congr UInt32.le_iff_toNat_le.symm ?_
  have small : id.toNat < UInt32.size := id.toNat_lt
  exact ⟨fun all => all (by omega), fun held _ => held⟩

end Hotkeys
