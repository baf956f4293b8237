import Hotkeys.Backend.Basic

/-!
# What a backend answers

Closed forms of the calls to a backend. Its errors tell that the system cannot do what it is asked
for; none of them is a mistake of the program that asks.
-/

namespace Hotkeys

/-- What the system or the store of the handlers says no with. -/
def Error.isForeign : Error → Bool
  | registration .. | unregistration .. | slotAllocation .. | backend _ => true
  | _ => false

/-- Whether the error is that of a release that the system has refused. -/
def Error.isUnregistration : Error → Bool
  | unregistration .. => true
  | _ => false

/-- What the system or the store objects to is not the fault of the calling program. -/
theorem Error.isProgrammingError_of_isForeign {e : Error} (foreign : e.isForeign = true) :
    e.isProgrammingError = false := by
  cases e with
  | doubleRelease id => cases foreign
  | inconsistentState detail => cases foreign
  | _ => rfl

namespace Backend

theorem Portable.register_eq (p : Portable) (onOwnerThread : Bool) (id : HotkeyId)
    (chord : Chord) :
    p.register onOwnerThread id chord =
      (if onOwnerThread then
        if supports chord.key then .ok { entries := p.entries.insert chord id }
        else .error (.registration chord.text
          "key is not supported by the global-hotkey backend")
      else .error (.backend
        "global-hotkey manager must be used from the thread that created it")) := by
  cases onOwnerThread
  · rfl
  · by_cases supported : supports chord.key = true
    · simp only [register, checkThread, supported]
      rfl
    · simp only [register, checkThread, supported]
      rfl

theorem Portable.release_eq (p : Portable) (onOwnerThread : Bool) (refusal : Option String)
    (id : HotkeyId) (chord : Chord) :
    p.release onOwnerThread refusal id chord =
      (if onOwnerThread then
        if (p.get? chord).isNone then .error (.unregistration id "handle is not live")
        else match refusal with
          | some reason => .error (.unregistration id reason)
          | none => .ok { entries := p.entries.erase chord }
      else .error (.backend
        "global-hotkey manager must be used from the thread that created it")) := by
  cases onOwnerThread
  · rfl
  · by_cases absent : (p.get? chord).isNone = true
    · simp only [release, checkThread, absent]
      rfl
    · cases refusal with
      | none =>
        simp only [release, checkThread, absent]
        rfl
      | some reason =>
        simp only [release, checkThread, absent]
        rfl

variable {b : Backend} {env : Conditions} {id : HotkeyId} {e : Error}

/-- A registration fails at the backend in two ways only. -/
theorem error_of_register {chord : Chord} (failed : b.register env id chord = .error e) :
    (∃ keys reason, e = .registration keys reason) ∨ ∃ reason, e = .backend reason := by
  unfold register at failed
  split at failed
  · cases failed
    exact .inr ⟨_, rfl⟩
  · cases b with
    | simulated s =>
      simp only [Simulated.register] at failed
      split at failed
      · cases failed
        exact .inl ⟨_, _, rfl⟩
      · split at failed <;> cases failed
        exact .inl ⟨_, _, rfl⟩
    | portable p =>
      simp only [Portable.register_eq] at failed
      split at failed
      · split at failed <;> cases failed
        exact .inl ⟨_, _, rfl⟩
      · cases failed
        exact .inr ⟨_, rfl⟩

/-- A release fails at the backend in two ways only. -/
theorem error_of_release {os : OsHandle} (failed : b.release env id os = .error e) :
    (∃ reason, e = .unregistration id reason) ∨ ∃ reason, e = .backend reason := by
  unfold release at failed
  split at failed
  · cases failed
    exact .inl ⟨_, rfl⟩
  · split at failed
    · simp only [Simulated.release] at failed
      split at failed <;> cases failed
      exact .inl ⟨_, rfl⟩
    · simp only [Portable.release_eq] at failed
      split at failed
      · split at failed
        · cases failed
          exact .inl ⟨_, rfl⟩
        · split at failed <;> cases failed
          exact .inl ⟨_, rfl⟩
      · cases failed
        exact .inr ⟨_, rfl⟩
    · cases failed
      exact .inl ⟨_, rfl⟩

theorem isForeign_of_register {chord : Chord} (failed : b.register env id chord = .error e) :
    e.isForeign = true := by
  obtain ⟨_, _, rfl⟩ | ⟨_, rfl⟩ := error_of_register failed <;> rfl

theorem isForeign_of_release {os : OsHandle} (failed : b.release env id os = .error e) :
    e.isForeign = true := by
  obtain ⟨_, rfl⟩ | ⟨_, rfl⟩ := error_of_release failed <;> rfl

theorem isProgrammingError_of_register {chord : Chord}
    (failed : b.register env id chord = .error e) : e.isProgrammingError = false :=
  Error.isProgrammingError_of_isForeign (isForeign_of_register failed)

theorem isProgrammingError_of_release {os : OsHandle} (failed : b.release env id os = .error e) :
    e.isProgrammingError = false :=
  Error.isProgrammingError_of_isForeign (isForeign_of_release failed)

end Backend

end Hotkeys
