import Hotkeys.Proofs.Backend.Basic
import Hotkeys.Proofs.Bridge.Changes

/-!
# The operations of a paired bridge

A bridge is paired if every identifier that has a slot has a table entry. The phases of a paired
bridge are all known, so each operation has a closed form in which no phase fails: its conditions
are what the tables hold and what the backend and the store answer, and its effect is one of a few
changes to the bridge. Nothing else about the operations is used later on.
-/

namespace Hotkeys

namespace Bridge

variable {H : Type} {b : Bridge H}

/-! ## Closed forms -/

namespace Paired

/-- On a paired bridge the phase is never in doubt. -/
theorem phase_eq (paired : b.Paired) (id : HotkeyId) :
    b.phase id = .done (if b.isBound id then .bound
      else if b.isRegistered id then .registered else .unregistered) := by
  unfold phase
  by_cases bound : b.isBound id = true
  · simp [bound, paired id bound, Phase.ofParts]
  · by_cases registered : b.isRegistered id = true <;> simp [bound, registered, Phase.ofParts]

theorem withPhase_eq {α : Type} (paired : b.Paired) (id : HotkeyId)
    (next : Phase → Outcome α × Bridge H) :
    b.withPhase id next = next (if b.isBound id then .bound
      else if b.isRegistered id then .registered else .unregistered) := by
  unfold withPhase
  rw [paired.phase_eq]

theorem register_eq (paired : b.Paired) (env : Conditions) (id : HotkeyId) (chord : Chord) :
    b.register env id chord =
      if b.isRegistered id then (.failed (.duplicateIdentifier id), b)
      else match b.backend.register env id chord with
        | .error e => (.failed e, b)
        | .ok (os, backend) =>
          (.done ⟨id, b.handles.nextSerial⟩, b.enroll id chord os backend) := by
  unfold register
  rw [paired.withPhase_eq]
  by_cases registered : b.isRegistered id = true
  · by_cases bound : b.isBound id = true <;> simp [registered, bound, Phase.isRegistered]
  · have unbound : ¬ b.isBound id = true := fun bound => registered (paired id bound)
    have fresh : b.handles.contains id = false := by simpa [isRegistered] using registered
    simp only [registered, unbound, Phase.isRegistered, Phase.checkTransition, Phase.allows,
      Handles.register, fresh]
    cases b.backend.register env id chord <;> rfl

theorem bind_eq (paired : b.Paired) (refusal : Option String) (id : HotkeyId) (handler : H) :
    b.bind refusal id handler =
      match refusal with
      | some reason => (.failed (.slotAllocation id reason), b)
      | none =>
        if b.isBound id then (.failed (.alreadyBound id), b.discard id handler)
        else if b.isRegistered id then (.done (), b.fill id handler)
        else (.failed (.unknownIdentifier id), b.discard id handler) := by
  have phase : (b.store id handler).2.phase id = b.phase id := rfl
  cases refusal with
  | some reason => rfl
  | none =>
    simp only [bind, phase, paired.phase_eq]
    by_cases bound : b.isBound id = true
    · simp [bound, discard]
    · by_cases registered : b.isRegistered id = true <;>
        simp [bound, registered, discard, fill, store]

theorem unbind_eq (paired : b.Paired) (id : HotkeyId) :
    b.unbind id =
      if b.isBound id then (.done (), b.clearSlot id)
      else if b.isRegistered id then (b.report (.doubleRelease id), b)
      else (.failed (.unknownIdentifier id), b) := by
  unfold unbind
  rw [paired.withPhase_eq]
  by_cases bound : b.isBound id = true
  · simp [bound, Phase.checkTransition, Phase.allows]
  · by_cases registered : b.isRegistered id = true <;> simp [bound, registered]

theorem unregisterHandle_eq (paired : b.Paired) (env : Conditions) (h : Handle) :
    b.unregisterHandle env h =
      match b.handles.live.get? h.id with
      | none => (b.report (.doubleRelease h.id), b)
      | some holding =>
        if holding.serial = h.serial then
          match b.backend.release env h.id holding.os with
          | .ok backend => (.done (), b.withdraw h.id backend)
          | .error e => (.failed e, b.withdraw h.id b.backend)
        else (b.report (.doubleRelease h.id), b) := by
  unfold unregisterHandle
  rw [paired.withPhase_eq]
  unfold Handles.detach
  cases held : b.handles.live.get? h.id with
  | none => rfl
  | some holding =>
    have registered : b.isRegistered h.id = true := by
      simp [isRegistered, Handles.contains, Table.contains, held]
    have allowed : ∀ p : Phase, p ≠ .unregistered →
        Phase.checkTransition h.id p .unregistered = .ok () := by
      intro p
      cases p <;> simp [Phase.checkTransition, Phase.allows]
    by_cases current : holding.serial = h.serial
    · simp only [current, if_true, registered]
      rw [allowed _ (by split <;> simp)]
      simp only [Detached.release]
      cases b.backend.release env h.id holding.os <;> rfl
    · simp [current]

theorem unregister_eq (paired : b.Paired) (env : Conditions) (id : HotkeyId) :
    b.unregister env id =
      match b.handles.live.get? id with
      | none => (.failed (.unknownIdentifier id), b)
      | some holding =>
        match b.backend.release env id holding.os with
        | .ok backend => (.done (), b.withdraw id backend)
        | .error e => (.failed e, b.withdraw id b.backend) := by
  unfold unregister handle? Handles.handle?
  cases held : b.handles.live.get? id with
  | none => rfl
  | some holding =>
    simp only [Option.map_some]
    rw [paired.unregisterHandle_eq]
    simp only [held, if_true]
    cases released : b.backend.release env id holding.os with
    | ok backend => rfl
    | error e =>
      have := Backend.isProgrammingError_of_release released
      cases e <;> simp_all [Error.isProgrammingError]

/-- The registration is rolled back where the store refuses the handler. Nothing else can keep a
new registration from being bound. -/
theorem registerAndBind_eq (paired : b.Paired) (env : Conditions) (refusal : Option String)
    (id : HotkeyId) (chord : Chord) (handler : H) :
    b.registerAndBind env refusal id chord handler =
      if b.isRegistered id then (.failed (.duplicateIdentifier id), b)
      else match b.backend.register env id chord with
        | .error e => (.failed e, b)
        | .ok (os, backend) =>
          match refusal with
          | none =>
            (.done ⟨id, b.handles.nextSerial⟩, (b.enroll id chord os backend).fill id handler)
          | some reason =>
            (.failed (.slotAllocation id reason),
              (b.enroll id chord os backend).withdraw id
                (match backend.release env id os with
                  | .ok released => released
                  | .error _ => backend)) := by
  unfold registerAndBind
  rw [paired.register_eq]
  by_cases registered : b.isRegistered id = true
  · simp [registered]
  · rw [if_neg registered, if_neg registered]
    cases b.backend.register env id chord with
    | error e => rfl
    | ok granted =>
      obtain ⟨os, backend⟩ := granted
      have unbound : ¬ (b.enroll id chord os backend).isBound id = true :=
        fun bound => registered (paired id bound)
      have enrolled := paired.enroll id chord os backend
      dsimp only
      rw [enrolled.bind_eq]
      cases refusal with
      | none => simp only [if_neg unbound, if_pos (b.enroll_isRegistered id chord os backend)]
      | some reason =>
        dsimp only
        rw [enrolled.unregisterHandle_eq]
        simp only [enroll_get?_self, enroll_backend, if_true]
        cases backend.release env id os <;> rfl

/-- The handle of a new registration carries the next serial number. -/
theorem registerAndBind_done (paired : b.Paired) {env : Conditions} {refusal : Option String}
    {id : HotkeyId} {chord : Chord} {handler : H} {h : Handle} {b' : Bridge H}
    (took : b.registerAndBind env refusal id chord handler = (.done h, b')) :
    h = ⟨id, b.handles.nextSerial⟩ ∧ b.isRegistered id = false ∧
      ∃ os backend, b.backend.register env id chord = .ok (os, backend) ∧
        b' = (b.enroll id chord os backend).fill id handler := by
  rw [paired.registerAndBind_eq] at took
  split at took
  · cases took
  · rename_i free
    cases accepted : b.backend.register env id chord with
    | error e =>
      rw [accepted] at took
      cases took
    | ok granted =>
      rw [accepted] at took
      cases refusal with
      | some reason => cases took
      | none =>
        cases took
        exact ⟨rfl, by simpa using free, _, _, rfl, rfl⟩

end Paired

end Bridge

end Hotkeys
