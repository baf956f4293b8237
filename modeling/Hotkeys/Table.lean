/-!
# Tables

A table holds at most one value for a key, and its type says so. Its list of entries may have any
order; what it holds is told by `get?`.
-/

namespace Hotkeys

/-- A finite map. No key occurs twice among its entries. -/
structure Table (κ α : Type) where
  entries : List (κ × α) := []
  nodup_keys : (entries.map (·.1)).Nodup := by exact List.nodup_nil

namespace Table

variable {κ α : Type}

def empty : Table κ α := {}

instance : Inhabited (Table κ α) := ⟨empty⟩

/-- The number of entries. -/
def size (t : Table κ α) : Nat := t.entries.length

def isEmpty (t : Table κ α) : Bool := t.entries.isEmpty

/-- The keys in the order of their entries. -/
def keys (t : Table κ α) : List κ := t.entries.map (·.1)

/-- The values in the order of their entries. -/
def values (t : Table κ α) : List α := t.entries.map (·.2)

variable [DecidableEq κ]

/-- The value of a key. -/
def get? (t : Table κ α) (k : κ) : Option α := t.entries.lookup k

def contains (t : Table κ α) (k : κ) : Bool := (t.get? k).isSome

/-- The table without a key. -/
def erase (t : Table κ α) (k : κ) : Table κ α where
  entries := t.entries.filter fun e => decide (e.1 ≠ k)
  nodup_keys := t.nodup_keys.sublist (List.filter_sublist.map _)

/-- Puts a value in, in place of what was held for the key. -/
def insert (t : Table κ α) (k : κ) (a : α) : Table κ α where
  entries := (k, a) :: (t.erase k).entries
  nodup_keys := List.nodup_cons.2 ⟨by simp [erase], (t.erase k).nodup_keys⟩

@[simp] theorem get?_empty (k : κ) : (empty : Table κ α).get? k = none := rfl

/-- The entries hold nothing that `get?` does not find. -/
theorem get?_eq_some_iff {t : Table κ α} {k : κ} {a : α} :
    t.get? k = some a ↔ (k, a) ∈ t.entries := by
  obtain ⟨entries, nodup⟩ := t
  simp only [get?]
  induction entries with
  | nil => simp
  | cons e rest ih =>
    rw [List.map_cons, List.nodup_cons] at nodup
    have fresh : e.1 = k → (k, a) ∉ rest := fun same member =>
      nodup.1 (List.mem_map.2 ⟨(k, a), member, same.symm⟩)
    have := ih nodup.2
    grind

theorem contains_iff_mem_keys {t : Table κ α} {k : κ} : t.contains k = true ↔ k ∈ t.keys := by
  simp [contains, keys, Option.isSome_iff_exists, get?_eq_some_iff]

/-- The values after a key has been taken out. -/
theorem get?_erase (t : Table κ α) (k other : κ) :
    (t.erase k).get? other = if other = k then none else t.get? other := by
  simp only [get?, erase]
  induction t.entries with
  | nil => simp
  | cons e rest ih => grind

/-- The values after a key has got a value. -/
theorem get?_insert (t : Table κ α) (k other : κ) (a : α) :
    (t.insert k a).get? other = if other = k then some a else t.get? other := by
  have := get?_erase t k other
  simp only [get?, insert] at this ⊢
  grind

theorem get?_erase_eq_some_iff {t : Table κ α} {k other : κ} {a : α} :
    (t.erase k).get? other = some a ↔ other ≠ k ∧ t.get? other = some a := by
  rw [get?_erase]
  split <;> simp_all

theorem get?_insert_eq_some_iff {t : Table κ α} {k other : κ} {a b : α} :
    (t.insert k a).get? other = some b ↔
      other = k ∧ a = b ∨ other ≠ k ∧ t.get? other = some b := by
  rw [get?_insert]
  split <;> simp_all

theorem mem_values_iff {t : Table κ α} {a : α} : a ∈ t.values ↔ ∃ k, t.get? k = some a := by
  simp [values, get?_eq_some_iff]

theorem contains_iff {t : Table κ α} {k : κ} : t.contains k = true ↔ ∃ a, t.get? k = some a :=
  Option.isSome_iff_exists

theorem erase_of_get?_eq_none {t : Table κ α} {k : κ} (absent : t.get? k = none) :
    t.erase k = t := by
  have other : ∀ e ∈ t.entries, e.1 ≠ k := by
    intro e member same
    have := get?_eq_some_iff.2 (same ▸ member : (k, e.2) ∈ t.entries)
    rw [absent] at this
    cases this
  obtain ⟨entries, nodup⟩ := t
  simpa [erase] using other

/-- Taking out what has been put in leaves nothing behind. -/
theorem erase_insert {t : Table κ α} {k : κ} (absent : t.get? k = none) (a : α) :
    (t.insert k a).erase k = t := by
  refine Eq.trans ?_ (erase_of_get?_eq_none absent)
  simp [insert, erase, List.filter_filter]

end Table

end Hotkeys
