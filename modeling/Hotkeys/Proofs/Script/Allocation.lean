import Hotkeys.Proofs.Bridge.Run
import Hotkeys.Proofs.Script.Nested
import Hotkeys.Proofs.Script.Objects

/-!
# The identifiers that can be given out

What is free is told by two sets that change without each other: the identifiers that the bridge has
and, for objects, those that other objects have. Both searches for a free one go up to the largest
identifier there is.
-/

namespace Hotkeys

namespace Bridge

variable {H : Type} {b : Bridge H} {base id : HotkeyId}

theorem mem_ids : id ∈ b.ids ↔ b.isRegistered id = true :=
  List.mem_mergeSort.trans Table.contains_iff_mem_keys.symm

theorem nextFree_eq_some_iff :
    b.nextFree base = some id ↔ IsLeast {id | base ≤ id ∧ id ∉ b.ids} id := by
  simp only [mem_ids, Bool.not_eq_true]
  exact freeId_eq_some_iff_isLeast

theorem nextFree_eq_none_iff : b.nextFree base = none ↔ ∀ id, base ≤ id → id ∈ b.ids := by
  simp only [mem_ids]
  exact freeId_eq_none_iff

end Bridge

namespace Script.Runtime

variable {φ : Type} {r r' : Runtime φ} {id base : HotkeyId}

/-- An identifier that no object has, that is not live, and that is in the range for objects. -/
def Available (r : Runtime φ) (id : HotkeyId) : Prop :=
  r.idBase ≤ id ∧ id ∉ r.reserved ∧ id ∉ r.ids

theorem isTaken_eq_false_iff : r.isTaken id = false ↔ id ∉ r.reserved ∧ id ∉ r.ids := by
  unfold isTaken ids
  cases r.bridge.isAlive <;> simp [Bridge.mem_ids]

/-- The identifier that is allocated is the least one available. -/
theorem freeId_eq_some_iff_available :
    freeId r.isTaken r.idBase = some id ↔ IsLeast {id | r.Available id} id := by
  simp only [Available, ← isTaken_eq_false_iff]
  exact freeId_eq_some_iff_isLeast

theorem freeId_eq_none_iff_available :
    freeId r.isTaken r.idBase = none ↔ ∀ id, ¬ r.Available id := by
  simp only [Available, ← isTaken_eq_false_iff, not_and, Bool.not_eq_false]
  exact freeId_eq_none_iff

/-- What an allocation gives, and what it leaves. -/
theorem allocate_eq_ok_iff :
    r.allocate = .ok (id, r') ↔
      IsLeast {id | r.Available id} id ∧ r' = { r with reserved := id :: r.reserved } := by
  rw [← freeId_eq_some_iff_available, allocate]
  cases freeId r.isTaken r.idBase with
  | none => simp
  | some least =>
    simp only [Except.ok.injEq, Prod.mk.injEq, Option.some.injEq]
    constructor
    · rintro ⟨rfl, rfl⟩
      exact ⟨rfl, rfl⟩
    · rintro ⟨rfl, rfl⟩
      exact ⟨rfl, rfl⟩

/-- An allocation fails only if nothing is available. -/
theorem allocate_eq_error_iff {e : Exception} :
    r.allocate = .error e ↔ (∀ id, ¬ r.Available id) ∧ e = .idsExhausted r.idBase := by
  rw [← freeId_eq_none_iff_available, allocate]
  cases freeId r.isTaken r.idBase with
  | none => simp [eq_comm]
  | some least => simp

/-- Without an identifier to give, no call of the library changes anything. -/
theorem call_of_exhausted (exhausted : ∀ id, ¬ r.Available id) (items : Nat → List (Value φ))
    (env : Conditions) (f : Function) (args : List (Value φ)) :
    (r.call items env f args).2 = r := by
  have failed : ∃ e, r.createFrom items args = .error e := by
    rw [createFrom_eq]
    cases requested items args with
    | error e => exact ⟨e, rfl⟩
    | ok named =>
      simp only [create_eq, freeId_eq_none_iff_available.mpr exhausted]
      exact ⟨_, rfl⟩
  obtain ⟨e, failed⟩ := failed
  cases f with
  | new | bind => simp only [call, failed]
  | keycode | ids => rfl

/-- What an object has reserved is free for others when the object is gone. -/
theorem mem_reserved_dropObject {n : Nat} {o : HotkeyObject φ} (found : r.object? n = some o)
    (env : Conditions) (id : HotkeyId) :
    id ∈ (r.dropObject env n).reserved ↔ id ∈ r.reserved ∧ id ≠ o.id := by
  rw [dropObject_eq found]
  simp [remove]

/-- The next free identifier of a bridge is the least one from the base on that is not live, and
there is none only if all up to the largest one are live. An object gets the least identifier that
is neither live nor reserved, which is reserved then and no other one with it; if there is none,
that is the error, and nothing changes. In every state that a runtime can reach, an object that is
dropped gives its own identifier back and no other one. -/
theorem identifiers_least (b : Bridge φ) (r : Runtime φ) (backend : Backend) (strict : Bool)
    (base : HotkeyId) (moves : List (Move φ)) :
    (∀ base id, b.nextFree base = some id ↔ IsLeast {id | base ≤ id ∧ id ∉ b.ids} id) ∧
    (∀ base, b.nextFree base = none ↔ ∀ id, base ≤ id → id ∈ b.ids) ∧
    (∀ id r', r.allocate = .ok (id, r') ↔
      IsLeast {id | r.Available id} id ∧ r' = { r with reserved := id :: r.reserved }) ∧
    (∀ e, r.allocate = .error e ↔ (∀ id, ¬ r.Available id) ∧ e = .idsExhausted r.idBase) ∧
    ((∀ id, ¬ r.Available id) → ∀ items env f args, (r.call items env f args).2 = r) ∧
    let r := (start backend strict base).run moves
    ∀ env n o, r.object? n = some o →
      let left := r.dropObject env n
      ¬ r.Available o.id ∧
      (∀ id, id ∈ left.reserved ↔ id ∈ r.reserved ∧ id ≠ o.id) ∧
      (o.id ∉ left.ids → left.Available o.id) := by
  refine ⟨fun _ _ => Bridge.nextFree_eq_some_iff, fun _ => Bridge.nextFree_eq_none_iff,
    fun _ _ => allocate_eq_ok_iff, fun _ => allocate_eq_error_iff, call_of_exhausted, ?_⟩
  intro r env n o found left
  have orderly : r.Orderly base := start_orderly backend strict base moves
  obtain ⟨member, rfl⟩ := object?_some found
  have reserved : o.id ∈ r.reserved := by
    rw [orderly.reserved.mem_iff]
    exact List.mem_map_of_mem (mem_cards member)
  have idBase : left.idBase = base := (orderly.take (.drop env o.number)).idBase
  refine ⟨fun available => available.2.1 reserved, mem_reserved_dropObject found env, ?_⟩
  intro idle
  refine ⟨?_, fun kept => ?_, idle⟩
  · rw [idBase]
    exact orderly.above _ (mem_cards member)
  · exact ((mem_reserved_dropObject found env o.id).mp kept).2 rfl

end Script.Runtime

end Hotkeys
