import Hotkeys.Proofs.Backend.Portable
import Hotkeys.Proofs.Backend.Simulated
import Hotkeys.Proofs.Bridge.Step

/-!
# Registrations that the table knows

Whatever the backend is, a system that only a bridge uses has no registrations but those that table
entries stand for, as long as no release has been refused. So it has none once the table is empty.
-/

namespace Hotkeys

namespace Backend

variable {b b' : Backend} {env : Conditions} {id : HotkeyId} {os other : OsHandle}

/-- The system has the registration that has been given out as `os`. -/
def Has : Backend → OsHandle → Prop
  | simulated s, .numbered n => ∃ g ∈ s.live, g.number = n
  | portable p, .combination chord => ∃ id, p.get? chord = some id
  | _, _ => False

/-- A registration adds nothing to the system but its own handle. -/
theorem has_register {chord : Chord} (accepted : b.register env id chord = .ok (os, b'))
    (has : b'.Has other) : other = os ∨ b.Has other := by
  cases b with
  | simulated s =>
    obtain ⟨rfl, rfl⟩ := register_simulated accepted
    cases other with
    | combination chord => exact .inr has
    | numbered n =>
      obtain ⟨g, live, rfl⟩ := has
      cases List.mem_cons.mp live with
      | inl new => exact .inl (new ▸ rfl)
      | inr old => exact .inr ⟨g, old, rfl⟩
  | portable p =>
    obtain ⟨rfl, rfl⟩ := register_portable accepted
    cases other with
    | numbered n => exact .inr has
    | combination chord =>
      obtain ⟨owner, entry⟩ := has
      obtain ⟨rfl, -⟩ | ⟨-, entry⟩ := Table.get?_insert_eq_some_iff.mp entry
      · exact .inl rfl
      · exact .inr ⟨owner, entry⟩

/-- A release takes its own handle from the system. -/
theorem has_release (released : b.release env id os = .ok b') (has : b'.Has other) :
    b.Has other ∧ other ≠ os := by
  cases b with
  | simulated s =>
    obtain ⟨n, rfl, rfl⟩ := release_simulated released
    cases other with
    | combination chord => exact has.elim
    | numbered m =>
      obtain ⟨g, kept, rfl⟩ := has
      obtain ⟨live, different⟩ := Simulated.mem_remove.mp kept
      refine ⟨⟨g, live, rfl⟩, ?_⟩
      rintro ⟨⟩
      exact different rfl
  | portable p =>
    obtain ⟨chord, rfl, rfl⟩ := release_portable released
    cases other with
    | numbered m => exact has.elim
    | combination chord' =>
      obtain ⟨owner, kept⟩ := has
      obtain ⟨different, entry⟩ := Table.get?_erase_eq_some_iff.mp kept
      refine ⟨⟨owner, entry⟩, ?_⟩
      rintro ⟨⟩
      exact different rfl

theorem not_has_ofKind (kind : Kind) (os : OsHandle) : ¬ (ofKind kind).Has os := by
  cases os with
  | numbered n => cases kind <;> simp [ofKind, Has]
  | combination chord => cases kind <;> first | exact id | rintro ⟨_, ⟨⟩⟩

theorem exists_has_of_isBound {chord : Chord} (bound : b.isBound chord = true) :
    ∃ os, b.Has os := by
  cases b with
  | simulated s =>
    obtain ⟨g, live, -⟩ := List.any_eq_true.mp bound
    exact ⟨.numbered g.number, g, live, rfl⟩
  | portable p => exact ⟨.combination chord, Option.isSome_iff_exists.mp bound⟩

end Backend

namespace Bridge

variable {H : Type} {b b' : Bridge H}

/-- Every registration that the system has is that of a table entry. -/
def Covered (b : Bridge H) : Prop :=
  ∀ os, b.backend.Has os → ∃ id holding, b.handles.live.get? id = some holding ∧ holding.os = os

namespace Covered

theorem congr (covered : b.Covered) (handles : b'.handles = b.handles)
    (backend : b'.backend = b.backend) : b'.Covered := by
  unfold Covered
  rw [handles, backend]
  exact covered

theorem enroll (covered : b.Covered) {env : Conditions} {id : HotkeyId} {chord : Chord}
    {os : OsHandle} {backend : Backend} (free : b.isRegistered id = false)
    (accepted : b.backend.register env id chord = .ok (os, backend)) :
    (b.enroll id chord os backend).Covered := by
  intro other has
  cases Backend.has_register accepted has with
  | inl same => exact ⟨id, _, b.enroll_get?_self id chord os backend, same.symm⟩
  | inr old =>
    obtain ⟨id', holding, entry, same⟩ := covered other old
    have different : id' ≠ id := by
      rintro rfl
      exact absurd (isRegistered_iff.mpr ⟨holding, entry⟩) (by simp [free])
    exact ⟨id', holding, Table.get?_insert_eq_some_iff.mpr (.inr ⟨different, entry⟩), same⟩

theorem withdraw (covered : b.Covered) {env : Conditions} {id : HotkeyId} {holding : Holding}
    {backend : Backend} (live : b.handles.live.get? id = some holding)
    (released : b.backend.release env id holding.os = .ok backend) :
    (b.withdraw id backend).Covered := by
  intro other has
  rw [withdraw_backend] at has
  obtain ⟨old, different⟩ := Backend.has_release released has
  obtain ⟨id', holding', entry, same⟩ := covered other old
  refine ⟨id', holding', ?_, same⟩
  rw [withdraw_handles]
  refine Table.get?_erase_eq_some_iff.mpr ⟨?_, entry⟩
  rintro rfl
  cases live.symm.trans entry
  exact different same.symm

end Covered

/-- What the system has after releases, none of which it has refused, it had before, and it has not
been asked to release it. -/
theorem has_releaseEach {env : Conditions} {backend : Backend} {detached : List Detached}
    (accepted : refusesAny env backend detached = false) {os : OsHandle}
    (has : (releaseEach env backend detached).Has os) :
    backend.Has os ∧ ∀ d ∈ detached, d.os ≠ os := by
  induction detached generalizing backend with
  | nil => exact ⟨has, by simp⟩
  | cons d rest ih =>
    simp only [releaseEach, List.foldl_cons, refusesAny] at ih accepted has
    cases released : d.release backend env with
    | error e => simp [released] at accepted
    | ok backend' =>
      simp only [released] at accepted has
      obtain ⟨kept, others⟩ := ih accepted has
      obtain ⟨before, different⟩ := Backend.has_release released kept
      refine ⟨before, fun d' member => ?_⟩
      cases List.mem_cons.mp member with
      | inl first => exact first ▸ different.symm
      | inr later => exact others d' later

/-- A shutdown that meets no refusal leaves nothing with the system. -/
theorem Covered.shutdown (covered : b.Covered) {env : Conditions}
    (accepted : refusesAny env b.backend b.handles.detachAll.1 = false) (os : OsHandle) :
    ¬ (b.shutdown env).2.backend.Has os := by
  intro has
  rw [shutdown_backend] at has
  obtain ⟨before, others⟩ := has_releaseEach accepted has
  obtain ⟨id, holding, entry, same⟩ := covered os before
  have detached : (⟨id, holding.os⟩ : Detached) ∈ b.handles.detachAll.1 :=
    List.mem_map.mpr ⟨(id, holding), Table.get?_eq_some_iff.mp entry, rfl⟩
  exact others _ detached same

/-- What the system has is covered by the table as long as it refuses no release. -/
theorem Covered.change (covered : b.Covered) (change : Change false b b') : b'.Covered := by
  cases change with
  | enroll free accepted => exact covered.enroll free accepted
  | fill registered unbound => exact covered.congr rfl rfl
  | discard => exact covered.congr (discard_handles ..) (discard_backend ..)
  | clearSlot => exact covered.congr (clearSlot_handles ..) (clearSlot_backend ..)
  | withdraw live released => exact covered.withdraw live released
  | abandon allowed => cases allowed
  | shutdown allowed =>
    exact fun os has => absurd has (covered.shutdown (Bool.eq_false_iff.mpr fun refused =>
      nomatch allowed refused) os)
  | enter registered => exact covered.congr rfl rfl
  | leave => exact covered.congr (leave_handles _) (leave_backend _)
  | listen => exact covered.congr rfl rfl

theorem new_covered (kind : Backend.Kind) (strict : Bool) :
    (new (.ofKind kind) strict : Bridge H).Covered := by
  intro os has
  exact absurd has (Backend.not_has_ofKind kind os)

/-- A system that only a bridge with an empty table uses has nothing registered. -/
theorem Covered.isBound_eq_false (covered : b.Covered)
    (empty : ∀ id, b.handles.live.get? id = none) (chord : Chord) :
    b.backend.isBound chord = false := by
  refine Bool.eq_false_iff.mpr fun bound => ?_
  obtain ⟨os, has⟩ := Backend.exists_has_of_isBound bound
  obtain ⟨id, holding, entry, -⟩ := covered os has
  cases (empty id).symm.trans entry

end Bridge

end Hotkeys
