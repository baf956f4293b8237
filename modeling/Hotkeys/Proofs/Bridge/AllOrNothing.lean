import Hotkeys.Proofs.Bridge.Cells
import Hotkeys.Proofs.Bridge.Lifecycle
import Hotkeys.Proofs.Bridge.Rollback
import Hotkeys.Proofs.Bridge.System

/-!
# Registering a combination for a handler, or doing neither

The compound operation registers a combination first and binds the handler afterwards. When the
handler cannot be bound, the registration is taken back, and this may fail as well: the system may
refuse to let go of what it has just accepted. For the tables of the bridge it makes no difference,
so the operation is all or nothing there. The system may be left with one registration too many,
and this refusal is the only way to it.

## Implementation notes

`Attempt` has one constructor for each way to end. A refusal of the release is told by `refuses`,
which asks the backend that has the new registration.
-/

namespace Hotkeys.Bridge

open Backend

variable {H : Type} {b : Bridge H} {env : Conditions} {refusal : Option String} {id : HotkeyId}
  {chord : Chord} {handler : H}

namespace Attempt

variable {r : Outcome Handle × Bridge H}

/-- The errors are those of the three parts. A bridge that is asked to bind twice or to release
twice says so with other errors. -/
theorem cause {e : Error} (attempt : Attempt b env refusal id chord handler r)
    (failed : r.1 = .failed e) :
    b.isRegistered id = true ∧ e = .duplicateIdentifier id ∨
      b.backend.register env id chord = .error e ∨
      ∃ reason, refusal = some reason ∧ e = .slotAllocation id reason := by
  cases attempt with
  | taken registered =>
    cases failed
    exact .inl ⟨registered, rfl⟩
  | declined free answer =>
    cases failed
    exact .inr (.inl answer)
  | kept free answer stored => cases failed
  | undone free answer refused =>
    cases failed
    exact .inr (.inr ⟨_, refused, rfl⟩)

/-- Nothing but the next serial number and the backend can tell a failed attempt from none. -/
theorem rest_of_failed {e : Error} (attempt : Attempt b env refusal id chord handler r)
    (failed : r.1 = .failed e) :
    r.2 = { b with
      handles := { b.handles with nextSerial := r.2.handles.nextSerial }
      backend := r.2.backend } := by
  cases attempt with
  | kept free answer stored => cases failed
  | _ => rfl

/-- A failed attempt takes no life and gives none. -/
theorem lives_of_failed {e : Error} (attempt : Attempt b env refusal id chord handler r)
    (failed : r.1 = .failed e) {other : HotkeyId} {life : Life H} (lives : b.Lives other life) :
    r.2.Lives other life := by
  have rest := attempt.rest_of_failed failed
  refine lives.congr ?_ ?_ <;> rw [rest]

/-- A registration with a handler never blames the caller, so it is not aborted. -/
theorem not_aborted (attempt : Attempt b env refusal id chord handler r) (e : Error) :
    r.1 ≠ .aborted e := by
  cases attempt <;> exact nofun

/-- The attempt succeeds exactly if nothing stands against it. -/
theorem done_iff (attempt : Attempt b env refusal id chord handler r) :
    (∃ h, r.1 = .done h) ↔
      b.isRegistered id = false ∧ (∃ granted, b.backend.register env id chord = .ok granted) ∧
        refusal = none := by
  cases attempt with
  | taken registered => simp [registered]
  | declined free answer => simp [answer]
  | kept free answer stored => simp [free, answer, stored]
  | undone free answer refused => simp [refused]

/-- An attempt that succeeds begins a life of the identifier, bound from its first moment on. -/
theorem lives_of_done {h : Handle} (attempt : Attempt b env refusal id chord handler r)
    (paired : b.Paired) (done : r.1 = .done h) :
    r.2.Lives id (.bound h chord handler) ∧
      ∀ {other : HotkeyId} {life : Life H}, other ≠ id → b.Lives other life →
        r.2.Lives other life := by
  cases attempt with
  | taken registered => cases done
  | declined free answer => cases done
  | undone free answer refused => cases done
  | kept free answer stored =>
    cases done
    have dead : b.Lives id .unregistered := by
      have lives := paired.lives id
      have phase := lives.isRegistered
      rw [free] at phase
      cases life : b.life id with
      | unregistered => exact life ▸ lives
      | registered h chord => simp [life, Life.phase, Phase.isRegistered] at phase
      | bound h chord handler => simp [life, Life.phase, Phase.isRegistered] at phase
    refine ⟨(dead.enroll chord _ _).fill handler, ?_⟩
    intro other life different lives
    exact (lives.enroll_other different _ _ _).fill_other different _

end Attempt

/-! ## What the system is left with -/

/-- What a system that accepts a combination and is asked to take it back has in the end. -/
theorem releaseEach_granted {s : Simulated} (numbered : s.Numbered) {os : OsHandle}
    {granted : Backend} (answer : (simulated s).register env id chord = .ok (os, granted)) :
    ∃ s', releaseEach env granted [⟨id, os⟩] = simulated s' ∧
      (refusesAny env granted [⟨id, os⟩] = false → s'.live = s.live) ∧
      (refusesAny env granted [⟨id, os⟩] = true →
        s'.live = ⟨s.next, id, chord⟩ :: s.live) := by
  simp only [releaseEach, refusesAny, Detached.release, List.foldl_cons, List.foldl_nil]
  cases released : granted.release env id os with
  | ok backend =>
    obtain ⟨s', rfl, live⟩ := live_of_register_release numbered answer released
    exact ⟨s', rfl, fun _ => live, fun refused => absurd refused Bool.false_ne_true⟩
  | error e =>
    obtain ⟨-, rfl⟩ := register_simulated answer
    exact ⟨_, rfl, fun taken => absurd taken.symm Bool.false_ne_true, fun _ => rfl⟩

/-- No release is asked for, let alone refused, where the combination has not been accepted. -/
theorem Paired.refuses_of_not_registered (paired : b.Paired)
    (rejected : b.isRegistered id = true ∨ ∃ e, b.backend.register env id chord = .error e) :
    b.refuses (.registerAndBind env refusal id chord handler) = false := by
  cases refusal with
  | none => rfl
  | some reason =>
    simp only [refuses, paired.register_eq]
    by_cases registered : b.isRegistered id = true
    · rw [if_pos registered]
    · obtain taken | ⟨e, answer⟩ := rejected
      · exact absurd taken registered
      · rw [if_neg registered, answer]

/-- A system has one registration more after an attempt that succeeds. After one that fails it has
what it had, unless it has refused to take the registration back. -/
theorem Attempt.live {s : Simulated} {r : Outcome Handle × Bridge H}
    (attempt : Attempt b env refusal id chord handler r) (paired : b.Paired)
    (backend : b.backend = simulated s) (numbered : s.Numbered) :
    let refused := b.refuses (.registerAndBind env refusal id chord handler)
    ∃ s', r.2.backend = simulated s' ∧
      (∀ h, r.1 = .done h → s'.live = ⟨s.next, id, chord⟩ :: s.live) ∧
      (∀ e, r.1 = .failed e → refused = false → s'.live = s.live) ∧
      ∀ e, r.1 = .failed e → refused = true →
        (∃ reason, refusal = some reason ∧ e = .slotAllocation id reason) ∧
          s'.live = ⟨s.next, id, chord⟩ :: s.live := by
  intro refused
  cases attempt with
  | taken registered =>
    have kept : refused = false := paired.refuses_of_not_registered (.inl registered)
    refine ⟨s, backend, nofun, fun _ _ _ => rfl, fun _ _ refuses => ?_⟩
    exact absurd (kept.symm.trans refuses) (by decide)
  | declined free answer =>
    have kept : refused = false := paired.refuses_of_not_registered (.inr ⟨_, answer⟩)
    refine ⟨s, backend, nofun, fun _ _ _ => rfl, fun _ _ refuses => ?_⟩
    exact absurd (kept.symm.trans refuses) (by decide)
  | kept free answer stored =>
    rw [backend] at answer
    obtain ⟨-, rfl⟩ := register_simulated answer
    exact ⟨_, rfl, fun _ _ => rfl, nofun, nofun⟩
  | @undone reason os granted free answer refusal_eq =>
    have asked : refused = refusesAny env granted [⟨id, os⟩] := by
      subst refusal_eq
      exact paired.refuses_registerAndBind free answer reason handler
    rw [asked]
    rw [backend] at answer
    obtain ⟨s', released, back, left⟩ := releaseEach_granted numbered answer
    refine ⟨s', released, nofun, fun _ _ => back, ?_⟩
    rintro _ ⟨⟩ refuses
    exact ⟨⟨reason, refusal_eq, rfl⟩, left refuses⟩

/-- The counter of the handlers goes up by one with an attempt that succeeds. -/
theorem Attempt.liveSlots_of_done {r : Outcome Handle × Bridge H} {h : Handle}
    (attempt : Attempt b env refusal id chord handler r) (tidy : b.Tidy [])
    (done : r.1 = .done h) : r.2.liveSlots = b.liveSlots + 1 := by
  have counted := tidy.counted
  cases attempt with
  | taken registered => cases done
  | declined free answer => cases done
  | undone free answer refused => cases done
  | kept free answer stored =>
    change (b.counter + 1).toNat = b.counter.toNat + 1
    omega

/-- In every state that a bridge can reach, registering a combination for a handler ends in one of
two ways, whatever the system and the store of the handlers answer. Either the identifier is bound
to the handler under the new handle and the system has exactly one registration more. Or the
operation fails, and for no identifier anything has changed. Then the system has what it had too,
unless the store has refused the handler and the system refuses to take the new registration back.
In this case exactly that registration is left over. The bridge is never aborted, however strict it
is, and the errors of a second binding or a second release do not come up. -/
theorem registerAndBind_run (strict : Bool) (moves : List (Move H)) (env : Conditions)
    (refusal : Option String) (id : HotkeyId) (chord : Chord) (handler : H) :
    let b := (new (.simulated {}) strict).run moves
    let r := b.registerAndBind env refusal id chord handler
    let refused := b.refuses (.registerAndBind env refusal id chord handler)
    ∃ s s', b.backend = .simulated s ∧ r.2.backend = .simulated s' ∧
      (∀ e, r.1 ≠ .aborted e) ∧
      ((∃ h, r.1 = .done h) ↔
        b.isRegistered id = false ∧ (∃ granted, b.backend.register env id chord = .ok granted) ∧
          refusal = none) ∧
      (∀ h, r.1 = .done h →
        r.2.phase id = .done .bound ∧ r.2.handle? id = some h ∧ r.2.chord? id = some chord ∧
        r.2.handler? id = some handler ∧ r.2.liveSlots = b.liveSlots + 1 ∧
        s'.live = ⟨s.next, id, chord⟩ :: s.live ∧
        ∀ other, other ≠ id →
          r.2.phase other = b.phase other ∧ r.2.handle? other = b.handle? other ∧
          r.2.chord? other = b.chord? other ∧ r.2.handler? other = b.handler? other) ∧
      ∀ e, r.1 = .failed e →
        (∀ other,
          r.2.phase other = b.phase other ∧ r.2.handle? other = b.handle? other ∧
          r.2.chord? other = b.chord? other ∧ r.2.handler? other = b.handler? other) ∧
        r.2.liveSlots = b.liveSlots ∧
        (refused = false → s'.live = s.live) ∧
        (refused = true →
          (∃ reason, refusal = some reason ∧ e = .slotAllocation id reason) ∧
          s'.live = ⟨s.next, id, chord⟩ :: s.live) ∧
        ∀ other, e ≠ .alreadyBound other ∧ e ≠ .doubleRelease other := by
  intro b r refused
  have paired : b.Paired := (new_paired _ strict).run moves
  have tidy : b.Tidy [] := new_tidy_run _ strict moves
  obtain ⟨s, backed, -⟩ : b.Agrees true := new_agrees_run true strict moves fun _ => rfl
  have attempt : Attempt b env refusal id chord handler r :=
    paired.attempt env refusal id chord handler
  have same : ∀ {other : HotkeyId} {life : Life H}, b.Lives other life → r.2.Lives other life →
      r.2.phase other = b.phase other ∧ r.2.handle? other = b.handle? other ∧
      r.2.chord? other = b.chord? other ∧ r.2.handler? other = b.handler? other := by
    intro other life before after
    exact ⟨after.phase.trans before.phase.symm, after.handle?.trans before.handle?.symm,
      after.chord?.trans before.chord?.symm, after.handler?.trans before.handler?.symm⟩
  obtain ⟨s', backend', more, back, left⟩ := attempt.live paired backed.backend backed.numbered
  refine ⟨s, s', backed.backend, backend', attempt.not_aborted, attempt.done_iff, ?_, ?_⟩
  · intro h done
    obtain ⟨lives, others⟩ := attempt.lives_of_done paired done
    refine ⟨lives.phase, lives.handle?, lives.chord?, lives.handler?,
      attempt.liveSlots_of_done tidy done, more h done, ?_⟩
    intro other different
    exact same (paired.lives other) (others different (paired.lives other))
  · intro e failed
    refine ⟨?_, ?_, back e failed, left e failed, ?_⟩
    · intro other
      exact same (paired.lives other) (attempt.lives_of_failed failed (paired.lives other))
    · rw [attempt.rest_of_failed failed]
      rfl
    · intro other
      obtain ⟨-, rfl⟩ | answer | ⟨reason, -, rfl⟩ := attempt.cause failed
      · exact ⟨nofun, nofun⟩
      · obtain ⟨_, _, rfl⟩ | ⟨_, rfl⟩ := error_of_register answer <;> exact ⟨nofun, nofun⟩
      · exact ⟨nofun, nofun⟩

end Hotkeys.Bridge
