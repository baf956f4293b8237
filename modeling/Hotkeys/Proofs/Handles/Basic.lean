import Hotkeys.Handles
import Hotkeys.Proofs.Backend.Basic

/-!
# What the operations on handles do

A handle is live as long as the table has an entry for its identifier with its serial number. For
each operation it is told here which handles are live afterwards.
-/

namespace Hotkeys.Handles

variable {t : Handles} {h : Handle}

/-- A handle is live if the entry of its identifier has its serial number. -/
theorem isLive_iff :
    t.isLive h = true ↔ ∃ holding, t.live.get? h.id = some holding ∧ holding.serial = h.serial := by
  obtain ⟨id, serial⟩ := h
  simp [isLive, handle?]

theorem handle?_eq_some_iff {id : HotkeyId} :
    t.handle? id = some h ↔ h.id = id ∧ t.isLive h = true := by
  obtain ⟨id', serial⟩ := h
  simp only [handle?, Option.map_eq_some_iff, isLive_iff, Handle.mk.injEq]
  constructor
  · rintro ⟨holding, entry, rfl, rfl⟩
    exact ⟨rfl, holding, entry, rfl⟩
  · rintro ⟨rfl, holding, entry, same⟩
    exact ⟨holding, entry, rfl, same⟩

/-- A handle that has been given out and is not live any more. -/
def Spent (t : Handles) (h : Handle) : Prop := h.serial < t.nextSerial ∧ t.isLive h = false

/-- The table with an entry more. -/
def add (t : Handles) (id : HotkeyId) (os : OsHandle) (chord : Chord) : Handles where
  live := t.live.insert id ⟨os, chord, t.nextSerial⟩
  nextSerial := t.nextSerial + 1

/-- The table without the entry of an identifier. -/
def drop (t : Handles) (id : HotkeyId) : Handles := { t with live := t.live.erase id }

/-- A registration makes one handle live and leaves the others as they are. -/
theorem isLive_add {id : HotkeyId} (free : t.contains id = false) (os : OsHandle) (chord : Chord) :
    (t.add id os chord).isLive h = true ↔ h = ⟨id, t.nextSerial⟩ ∨ t.isLive h = true := by
  have absent : t.live.get? id = none := by simpa [contains, Table.contains] using free
  obtain ⟨id', serial⟩ := h
  simp only [isLive_iff, add, Table.get?_insert_eq_some_iff, Handle.mk.injEq]
  constructor
  · rintro ⟨holding, ⟨rfl, rfl⟩ | ⟨-, entry⟩, same⟩
    · exact .inl ⟨rfl, same.symm⟩
    · exact .inr ⟨holding, entry, same⟩
  · rintro (⟨rfl, rfl⟩ | ⟨holding, entry, same⟩)
    · exact ⟨_, .inl ⟨rfl, rfl⟩, rfl⟩
    · have different : id' ≠ id := by
        rintro rfl
        cases absent.symm.trans entry
      exact ⟨holding, .inr ⟨different, entry⟩, same⟩

/-- A live handle is the only one that goes with the entry of its identifier. -/
theorem isLive_drop (live : t.isLive h = true) {other : Handle} :
    (t.drop h.id).isLive other = true ↔ t.isLive other = true ∧ h ≠ other := by
  obtain ⟨holding, entry, same⟩ := isLive_iff.mp live
  simp only [isLive_iff, drop, Table.get?_erase_eq_some_iff]
  constructor
  · rintro ⟨holding', ⟨different, entry'⟩, same'⟩
    refine ⟨⟨holding', entry', same'⟩, ?_⟩
    rintro rfl
    exact different rfl
  · rintro ⟨⟨holding', entry', same'⟩, different⟩
    refine ⟨holding', ⟨?_, entry'⟩, same'⟩
    intro id
    rw [id] at entry'
    cases entry.symm.trans entry'
    obtain ⟨_, _⟩ := h
    obtain ⟨_, _⟩ := other
    simp_all

theorem isLive_detachAll : t.detachAll.2.isLive h = false := rfl

/-! ## Spent handles -/

theorem Spent.add (spent : t.Spent h) {id : HotkeyId} (free : t.contains id = false) (os : OsHandle)
    (chord : Chord) : (t.add id os chord).Spent h := by
  refine ⟨Nat.lt_succ_of_lt spent.1, Bool.eq_false_iff.mpr fun live => ?_⟩
  cases (isLive_add free os chord).mp live with
  | inl new =>
    subst new
    exact Nat.lt_irrefl _ spent.1
  | inr old => exact absurd old (by simp [spent.2])

theorem Spent.drop (spent : t.Spent h) (id : HotkeyId) : (t.drop id).Spent h := by
  refine ⟨spent.1, Bool.eq_false_iff.mpr fun live => ?_⟩
  obtain ⟨holding, entry, same⟩ := isLive_iff.mp live
  have kept : t.isLive h = true :=
    isLive_iff.mpr ⟨holding, (Table.get?_erase_eq_some_iff.mp entry).2, same⟩
  exact absurd kept (by simp [spent.2])

/-! ## Closed forms -/

theorem register_eq (t : Handles) (b : Backend) (env : Conditions) (id : HotkeyId)
    (chord : Chord) :
    t.register b env id chord =
      if t.contains id then .error (.duplicateIdentifier id)
      else match b.register env id chord with
        | .error e => .error e
        | .ok (os, b) => .ok (⟨id, t.nextSerial⟩, t.add id os chord, b) := by
  unfold register
  split
  · rfl
  · cases b.register env id chord <;> rfl

theorem detach_of_isLive (live : t.isLive h = true) :
    ∃ os, t.detach h = .ok (⟨h.id, os⟩, t.drop h.id) := by
  obtain ⟨holding, entry, same⟩ := isLive_iff.mp live
  refine ⟨holding.os, ?_⟩
  unfold detach
  rw [entry]
  exact if_pos same

/-- A dead handle is refused. -/
theorem detach_of_not_isLive (dead : t.isLive h = false) :
    t.detach h = .error (.doubleRelease h.id) := by
  unfold detach
  cases entry : t.live.get? h.id with
  | none => rfl
  | some holding =>
    refine if_neg fun same => ?_
    exact absurd (isLive_iff.mpr ⟨holding, entry, same⟩) (by simp [dead])

/-- The entry goes, whatever the backend answers to the release. -/
theorem unregister_of_isLive (live : t.isLive h = true) (b : Backend) (env : Conditions) :
    ∃ result b', t.unregister b env h = (result, t.drop h.id, b') ∧
      result ≠ .error (.doubleRelease h.id) := by
  obtain ⟨os, detached⟩ := detach_of_isLive live
  unfold unregister
  rw [detached]
  dsimp only [Detached.release]
  cases released : b.release env h.id os with
  | ok b' => exact ⟨.ok (), b', rfl, nofun⟩
  | error e =>
    refine ⟨.error e, b, rfl, ?_⟩
    rintro ⟨⟩
    cases Backend.isForeign_of_release released

theorem unregister_of_not_isLive (dead : t.isLive h = false) (b : Backend) (env : Conditions) :
    t.unregister b env h = (.error (.doubleRelease h.id), t, b) := by
  unfold unregister
  rw [detach_of_not_isLive dead]

end Hotkeys.Handles
