import Hotkeys.Proofs.Backend.Portable
import Hotkeys.Proofs.Backend.Simulated
import Hotkeys.Proofs.Bridge.Step

/-!
# Registrations that come to nothing

A combination that is registered for a handler is released again if the store refuses the handler.
Nothing of it is left in the tables, and the system has the registrations that it had before.
-/

namespace Hotkeys

namespace Bridge

variable {H : Type} {b b' : Bridge H}

/-- A registration that is taken back at once leaves nothing in the tables. -/
theorem enroll_withdraw {id : HotkeyId} (absent : b.handles.live.get? id = none)
    (empty : b.slots.get? id = none) (chord : Chord) (os : OsHandle) (granted backend : Backend) :
    (b.enroll id chord os granted).withdraw id backend = { b with
      handles := { b.handles with nextSerial := b.handles.nextSerial + 1 }
      backend } := by
  simp only [withdraw, enroll, empty, Option.elim_none, Table.erase_insert absent,
    Table.erase_of_get?_eq_none empty]

/-- All that can come of registering a combination for a handler. The store is asked for the
handler after the system has accepted the combination, so only then is anything taken back. -/
inductive Attempt (b : Bridge H) (env : Conditions) (refusal : Option String) (id : HotkeyId)
    (chord : Chord) (handler : H) : Outcome Handle × Bridge H → Prop
  | taken (registered : b.isRegistered id = true) :
    Attempt b env refusal id chord handler (.failed (.duplicateIdentifier id), b)
  | declined {e : Error} (free : b.isRegistered id = false)
      (answer : b.backend.register env id chord = .error e) :
    Attempt b env refusal id chord handler (.failed e, b)
  | kept {os : OsHandle} {granted : Backend} (free : b.isRegistered id = false)
      (answer : b.backend.register env id chord = .ok (os, granted)) (stored : refusal = none) :
    Attempt b env refusal id chord handler
      (.done ⟨id, b.handles.nextSerial⟩, (b.enroll id chord os granted).fill id handler)
  | undone {reason : String} {os : OsHandle} {granted : Backend}
      (free : b.isRegistered id = false)
      (answer : b.backend.register env id chord = .ok (os, granted))
      (refused : refusal = some reason) :
    Attempt b env refusal id chord handler
      (.failed (.slotAllocation id reason), { b with
        handles := { b.handles with nextSerial := b.handles.nextSerial + 1 }
        backend := releaseEach env granted [⟨id, os⟩] })

namespace Paired

/-- A registration with a handler ends in one of the ways that are listed. -/
theorem attempt (paired : b.Paired) (env : Conditions) (refusal : Option String)
    (id : HotkeyId) (chord : Chord) (handler : H) :
    Attempt b env refusal id chord handler
      (b.registerAndBind env refusal id chord handler) := by
  rw [paired.registerAndBind_eq]
  by_cases registered : b.isRegistered id = true
  · rw [if_pos registered]
    exact .taken registered
  · rw [if_neg registered]
    have free : b.isRegistered id = false := Bool.eq_false_iff.mpr registered
    cases answer : b.backend.register env id chord with
    | error e => exact .declined free answer
    | ok granted =>
      obtain ⟨os, granted⟩ := granted
      cases refusal with
      | none => exact .kept free answer rfl
      | some reason =>
        have absent : b.handles.live.get? id = none := by
          simpa [isRegistered, Handles.contains, Table.contains] using free
        dsimp only
        rw [enroll_withdraw absent (paired.slot_eq_none_of_free registered)]
        exact .undone free answer rfl

/-- Whether the system refuses to take a combination back that it has just accepted. -/
theorem refuses_registerAndBind (paired : b.Paired) {env : Conditions} {id : HotkeyId}
    {chord : Chord} {os : OsHandle} {granted : Backend} (free : b.isRegistered id = false)
    (answer : b.backend.register env id chord = .ok (os, granted)) (reason : String)
    (handler : H) :
    b.refuses (.registerAndBind env (some reason) id chord handler) =
      refusesAny env granted [⟨id, os⟩] := by
  have enrolled : b.register env id chord =
      (.done ⟨id, b.handles.nextSerial⟩, b.enroll id chord os granted) := by
    rw [paired.register_eq, free, answer]
    rfl
  simp only [refuses, enrolled, enroll_backend, detached, enroll_get?_self, Option.toList_some,
    List.map_cons, List.map_nil]

end Paired

/-- What is left of a registration that has come to nothing, for one of the combinations that are
wanted. Only where the store has refused the handler has the system been asked at all: a serial
number has been used up, and the combination has been registered and, unless that was refused,
released again. -/
inductive Undone (wanted : Chord → Prop) (env : Conditions) (refused : Bool) (b : Bridge H) :
    Bridge H → Prop
  | untouched : Undone wanted env refused b b
  | rolledBack {id : HotkeyId} {chord : Chord} {os : OsHandle} {granted backend : Backend}
      (asked : wanted chord) (fault : env.storeFault.isSome = true)
      (accepted : b.backend.register env id chord = .ok (os, granted))
      (released : refused = false → granted.release env id os = .ok backend) :
      Undone wanted env refused b { b with
        handles := { b.handles with nextSerial := b.handles.nextSerial + 1 }
        backend }

/-- The tables of the bridge have the same entries as before. -/
theorem Undone.tables {wanted : Chord → Prop} {env : Conditions} {refused : Bool}
    (undone : b.Undone wanted env refused b') :
    b'.handles.live = b.handles.live ∧ b'.slots = b.slots ∧ b'.held = b.held := by
  cases undone <;> exact ⟨rfl, rfl, rfl⟩

theorem Undone.mono {wanted wanted' : Chord → Prop} {env : Conditions} {refused : Bool}
    (undone : b.Undone wanted env refused b') (also : ∀ chord, wanted chord → wanted' chord) :
    b.Undone wanted' env refused b' := by
  cases undone with
  | untouched => exact .untouched
  | rolledBack asked fault accepted released =>
    exact .rolledBack (also _ asked) fault accepted released

/-- A registration with a handler that fails is undone. -/
theorem Paired.registerAndBind_undone (paired : b.Paired) {env : Conditions} {id : HotkeyId}
    {chord : Chord} {handler : H} {outcome : Outcome Handle}
    (took : b.registerAndBind env env.storeFault id chord handler = (outcome, b'))
    (failed : ∀ h, outcome ≠ .done h) :
    b.Undone (· = chord) env (b.refuses (.registerAndBind env env.storeFault id chord handler)) b' := by
  have attempt := paired.attempt env env.storeFault id chord handler
  rw [took] at attempt
  cases attempt with
  | taken registered => exact .untouched
  | declined free answer => exact .untouched
  | kept free answer stored => exact absurd rfl (failed _)
  | undone free answer refused =>
    rw [refused, paired.refuses_registerAndBind free answer]
    refine .rolledBack rfl (by simp [refused]) answer ?_
    simp only [refusesAny, releaseEach, Detached.release, List.foldl_cons, List.foldl_nil]
    split <;> simp_all

end Bridge

end Hotkeys
