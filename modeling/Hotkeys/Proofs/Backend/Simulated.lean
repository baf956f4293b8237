import Hotkeys.Backend.Basic
import Mathlib.Data.List.Nodup

/-!
# The registrations of the simulated backend

A registration is added with a number that none has had, and taken out by its number. `Numbered` is
what both keep, and under it the number finds exactly one registration.
-/

namespace Hotkeys.Backend

namespace Simulated

variable {s : Simulated}

/-- The live registration with a number. -/
def grant? (s : Simulated) (n : Nat) : Option Grant := s.live.find? fun g => g.number == n

/-- The next number is new, whoever it is for. -/
def add (s : Simulated) (id : HotkeyId) (chord : Chord) : Simulated :=
  { next := s.next + 1, live := ⟨s.next, id, chord⟩ :: s.live }

def remove (s : Simulated) (n : Nat) : Simulated :=
  { s with live := s.live.filter fun g => g.number != n }

/-- No two live registrations share a number, and all numbers are behind the next one. -/
structure Numbered (s : Simulated) : Prop where
  nodup : (s.live.map (·.number)).Nodup
  older : ∀ g ∈ s.live, g.number < s.next

namespace Numbered

theorem empty : ({} : Simulated).Numbered := ⟨List.nodup_nil, by simp⟩

theorem add (numbered : s.Numbered) (id : HotkeyId) (chord : Chord) :
    (s.add id chord).Numbered := by
  constructor
  · refine List.nodup_cons.mpr ⟨?_, numbered.nodup⟩
    intro taken
    obtain ⟨g, live, same⟩ := List.mem_map.mp taken
    exact absurd same (Nat.ne_of_lt (numbered.older g live))
  · intro g live
    cases List.mem_cons.mp live with
    | inl new => exact new ▸ Nat.lt_succ_self _
    | inr old => exact Nat.lt_succ_of_lt (numbered.older g old)

theorem of_sublist {s' : Simulated} (numbered : s.Numbered) (sublist : s'.live.Sublist s.live)
    (next : s'.next = s.next) : s'.Numbered := by
  constructor
  · exact numbered.nodup.sublist (sublist.map _)
  · intro g live
    rw [next]
    exact numbered.older g (sublist.subset live)

/-- A live registration is known by its number. -/
theorem eq_of_number (numbered : s.Numbered) {g g' : Grant} (live : g ∈ s.live)
    (live' : g' ∈ s.live) (same : g.number = g'.number) : g = g' :=
  List.inj_on_of_nodup_map numbered.nodup live live' same

theorem grant?_eq_some (numbered : s.Numbered) {g : Grant} (live : g ∈ s.live) :
    s.grant? g.number = some g := by
  cases found : s.grant? g.number with
  | none => simpa using List.find?_eq_none.mp found g live
  | some g' =>
    have same : g'.number = g.number := by simpa using List.find?_some found
    rw [numbered.eq_of_number (List.mem_of_find?_eq_some found) live same]

end Numbered

variable {s' : Simulated} {id : HotkeyId} {chord : Chord} {n : Nat}

theorem mem_remove {g : Grant} : g ∈ (s.remove n).live ↔ g ∈ s.live ∧ g.number ≠ n := by
  simp [remove]

/-- When the backend takes a registration, and what it comes to. -/
theorem register_eq_ok_iff :
    s.register id chord = .ok (n, s') ↔
      (chord.isValid ∧ ∀ g ∈ s.live, g.chord ≠ chord) ∧ n = s.next ∧ s' = s.add id chord := by
  unfold register
  by_cases valid : chord.isValid = true
  · by_cases bound : s.isBound chord = true
    · have taken : ¬ ∀ g ∈ s.live, g.chord ≠ chord := by simpa [isBound] using bound
      simp [valid, bound, taken]
    · have free : ∀ g ∈ s.live, g.chord ≠ chord := by simpa [isBound] using bound
      rw [if_neg (by simp [valid]), if_neg bound]
      constructor
      · rintro ⟨⟩
        exact ⟨⟨valid, free⟩, rfl, rfl⟩
      · rintro ⟨-, rfl, rfl⟩
        rfl
  · simp [valid]

/-- When the backend gives a number up, and what it comes to. -/
theorem release_eq_ok_iff :
    s.release id n = .ok s' ↔ (∃ g ∈ s.live, g.number = n) ∧ s' = s.remove n := by
  unfold release
  by_cases found : (s.live.any fun g => g.number == n) = true
  · have live : ∃ g ∈ s.live, g.number = n := by simpa using found
    rw [if_pos found]
    constructor
    · rintro ⟨⟩
      exact ⟨live, rfl⟩
    · rintro ⟨-, rfl⟩
      rfl
  · have dead : ¬ ∃ g ∈ s.live, g.number = n := by simpa using found
    simp [found, dead]

end Simulated

variable {s : Simulated} {env : Conditions} {id : HotkeyId}

theorem register_simulated {chord : Chord} {os : OsHandle} {backend : Backend}
    (accepted : (simulated s).register env id chord = .ok (os, backend)) :
    os = .numbered s.next ∧ backend = simulated (s.add id chord) := by
  unfold register at accepted
  split at accepted
  · cases accepted
  · dsimp only at accepted
    cases granted : s.register id chord with
    | error e =>
      rw [granted] at accepted
      cases accepted
    | ok answered =>
      obtain ⟨n, s'⟩ := answered
      obtain ⟨-, rfl, rfl⟩ := Simulated.register_eq_ok_iff.mp granted
      rw [granted] at accepted
      cases accepted
      exact ⟨rfl, rfl⟩

theorem release_simulated {os : OsHandle} {backend : Backend}
    (released : (simulated s).release env id os = .ok backend) :
    ∃ n, os = .numbered n ∧ backend = simulated (s.remove n) := by
  unfold release at released
  split at released
  · cases released
  · cases os with
    | combination chord => cases released
    | numbered n =>
      dsimp only at released
      cases taken : s.release id n with
      | error e =>
        rw [taken] at released
        cases released
      | ok s' =>
        obtain ⟨-, rfl⟩ := Simulated.release_eq_ok_iff.mp taken
        rw [taken] at released
        cases released
        exact ⟨n, rfl, rfl⟩

/-- A release that fails does so with an error about the release. -/
theorem release_simulated_error {os : OsHandle} {e : Error}
    (refused : (simulated s).release env id os = .error e) :
    ∃ reason, e = .unregistration id reason := by
  unfold release at refused
  split at refused
  · cases refused
    exact ⟨_, rfl⟩
  · cases os with
    | combination chord =>
      cases refused
      exact ⟨_, rfl⟩
    | numbered n =>
      simp only [Simulated.release] at refused
      split at refused <;> cases refused
      exact ⟨_, rfl⟩

/-- A registration that is released again is gone without a trace. -/
theorem live_of_register_release (numbered : s.Numbered) {chord : Chord} {os : OsHandle}
    {backend backend' : Backend}
    (accepted : (simulated s).register env id chord = .ok (os, backend))
    (released : backend.release env id os = .ok backend') :
    ∃ s', backend' = simulated s' ∧ s'.live = s.live := by
  obtain ⟨rfl, rfl⟩ := register_simulated accepted
  obtain ⟨n, same, rfl⟩ := release_simulated released
  cases same
  refine ⟨_, rfl, ?_⟩
  simp only [Simulated.remove, Simulated.add, List.filter_cons, bne_self_eq_false,
    Bool.false_eq_true, if_false]
  refine List.filter_eq_self.mpr ?_
  intro g live
  simpa using Nat.ne_of_lt (numbered.older g live)

end Hotkeys.Backend
