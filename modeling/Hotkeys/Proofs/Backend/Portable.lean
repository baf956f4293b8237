import Hotkeys.Proofs.Backend.Basic

/-!
# The registrations of the portable backend

A registration is entered under its combination, in place of one that the combination had before,
and a release takes the entry of the combination out.
-/

namespace Hotkeys

/-- Conditions under which the backend is reached, and the system refuses nothing. -/
structure Conditions.Accepting (env : Conditions) : Prop where
  registrations : env.registrationFault = none
  releases : ∀ id, env.releaseFault id = none
  refusals : ∀ id, env.refusal id = none
  thread : env.onOwnerThread = true

theorem Conditions.accepting_default : ({} : Conditions).Accepting :=
  ⟨rfl, fun _ => rfl, fun _ => rfl, rfl⟩

namespace Backend

variable {p : Portable} {env : Conditions} {id : HotkeyId} {os : OsHandle} {backend : Backend}

namespace Portable

variable {p' : Portable} {onOwnerThread : Bool} {refusal : Option String} {chord : Chord}

/-- When the backend takes a registration, and what it comes to. -/
theorem register_eq_ok_iff :
    p.register onOwnerThread id chord = .ok p' ↔
      (onOwnerThread = true ∧ supports chord.key) ∧ p' = ⟨p.entries.insert chord id⟩ := by
  rw [register_eq]
  cases onOwnerThread with
  | false => simp
  | true => by_cases supported : supports chord.key = true <;> simp [supported, eq_comm]

/-- When the backend gives a combination up, and what it comes to. -/
theorem release_eq_ok_iff :
    p.release onOwnerThread refusal id chord = .ok p' ↔
      (onOwnerThread = true ∧ (p.get? chord).isSome ∧ refusal = none) ∧
        p' = ⟨p.entries.erase chord⟩ := by
  rw [release_eq]
  cases onOwnerThread with
  | false => simp
  | true => cases p.get? chord <;> cases refusal <;> simp [eq_comm]

end Portable

theorem register_portable {chord : Chord}
    (accepted : (portable p).register env id chord = .ok (os, backend)) :
    os = .combination chord ∧ backend = portable { entries := p.entries.insert chord id } := by
  unfold register at accepted
  split at accepted
  · cases accepted
  · dsimp only at accepted
    cases entered : p.register env.onOwnerThread id chord with
    | error e =>
      rw [entered] at accepted
      cases accepted
    | ok p' =>
      obtain ⟨-, rfl⟩ := Portable.register_eq_ok_iff.mp entered
      rw [entered] at accepted
      cases accepted
      exact ⟨rfl, rfl⟩

theorem release_portable (released : (portable p).release env id os = .ok backend) :
    ∃ chord, os = .combination chord ∧
      backend = portable { entries := p.entries.erase chord } := by
  unfold release at released
  cases fault : env.releaseFault id with
  | some reason => simp [fault] at released
  | none =>
    cases os with
    | numbered n => simp [fault] at released
    | combination chord =>
      simp only [fault] at released
      cases taken : p.release env.onOwnerThread (env.refusal id) id chord with
      | error e =>
        rw [taken] at released
        cases released
      | ok p' =>
        obtain ⟨-, rfl⟩ := Portable.release_eq_ok_iff.mp taken
        rw [taken] at released
        cases released
        exact ⟨chord, rfl, rfl⟩

/-- Where the system accepts everything, it is only the key that counts. -/
theorem register_accepting (accepting : env.Accepting) (p : Portable) (id : HotkeyId)
    (chord : Chord) :
    (portable p).register env id chord =
      if Portable.supports chord.key then
        .ok (.combination chord, portable { entries := p.entries.insert chord id })
      else .error (.registration chord.text
        "key is not supported by the global-hotkey backend") := by
  simp only [register, accepting.registrations, Portable.register_eq, accepting.thread,
    if_true]
  split <;> rfl

/-- Where the system accepts everything, a combination is released if it has an entry. -/
theorem release_accepting (accepting : env.Accepting) (p : Portable) (id : HotkeyId)
    (chord : Chord) :
    (portable p).release env id (.combination chord) =
      if (p.get? chord).isNone then .error (.unregistration id "handle is not live")
      else .ok (portable { entries := p.entries.erase chord }) := by
  simp only [release, accepting.releases, Portable.release_eq, accepting.thread,
    accepting.refusals, if_true]
  split <;> rfl

/-- A combination that was free is free again. -/
theorem get?_of_register_release {chord : Chord} {backend' : Backend}
    (accepted : (portable p).register env id chord = .ok (os, backend))
    (released : backend.release env id os = .ok backend') :
    ∃ p', backend' = portable p' ∧
      ∀ c, p'.get? c = if c = chord then none else p.get? c := by
  obtain ⟨rfl, rfl⟩ := register_portable accepted
  obtain ⟨_, same, rfl⟩ := release_portable released
  cases same
  refine ⟨_, rfl, fun c => ?_⟩
  simp only [Portable.get?, Table.get?_erase, Table.get?_insert]
  split <;> rfl

end Backend

end Hotkeys
