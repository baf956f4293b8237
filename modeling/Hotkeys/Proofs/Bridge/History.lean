import Hotkeys.Proofs.Bridge.Step
import Mathlib.Data.List.Induction

/-!
# Which handler an identifier stands for

The slot of a registered identifier holds what the log of the run says: the handler of the latest
bind, unless the identifier has been registered anew or unbound since. What has failed, and what
has been done to other identifiers, does not count.
-/

namespace Hotkeys.Bridge

variable {H : Type} {b b' : Bridge H} {id : HotkeyId}

/-- What an entry of the log says about the handler of an identifier, where it says anything. A
new registration and an unbind leave the identifier without a handler. -/
def rebinds (id : HotkeyId) : Move H × Outcome Answer → Option (Option H)
  | (.register _ other _, .done _) | (.unbind other, .done _) =>
    if other = id then some none else none
  | (.bind _ other handler, .done _) | (.registerAndBind _ _ other _ handler, .done _) =>
    if other = id then some (some handler) else none
  | _ => none

/-- The handler that the latest entry about an identifier gives to it. -/
def lastBound (log : List (Move H × Outcome Answer)) (id : HotkeyId) : Option H :=
  (log.reverse.findSome? (rebinds id)).join

/-- What has been bound last is decided by the latest move that says anything about it. -/
theorem lastBound_concat (log : List (Move H × Outcome Answer)) (entry : Move H × Outcome Answer)
    (id : HotkeyId) :
    lastBound (log ++ [entry]) id = (rebinds id entry).getD (lastBound log id) := by
  unfold lastBound
  rw [List.reverse_concat, List.findSome?_cons]
  cases rebinds id entry <;> rfl

/-- The latest bind: it has succeeded, and no later entry of the log says anything about the
identifier. -/
theorem lastBound_eq_some_iff {log : List (Move H × Outcome Answer)} {handler : H} :
    lastBound log id = some handler ↔
      ∃ earlier entry later, log = earlier ++ entry :: later ∧
        rebinds id entry = some (some handler) ∧ ∀ e ∈ later, rebinds id e = none := by
  unfold lastBound
  rw [Option.join_eq_some_iff, List.findSome?_eq_some_iff]
  constructor
  · rintro ⟨later, entry, earlier, split, tells, silent⟩
    refine ⟨earlier.reverse, entry, later.reverse, ?_, tells, ?_⟩
    · rw [← List.reverse_reverse log, split]
      simp
    · intro e member
      exact silent e (List.mem_reverse.mp member)
  · rintro ⟨earlier, entry, later, rfl, tells, silent⟩
    refine ⟨later.reverse, entry, earlier.reverse, by simp, tells, ?_⟩
    intro e member
    exact silent e (List.mem_reverse.mp member)

/-! ## One move -/

/-- An identifier that is registered afterwards was so before and keeps its slot. -/
def KeepsSlot (id : HotkeyId) (b b' : Bridge H) : Prop :=
  b'.isRegistered id = true → b.isRegistered id = true ∧ b'.slots.get? id = b.slots.get? id

/-- The slot of an identifier that is registered afterwards is what an entry says about it. -/
def Shows (id : HotkeyId) (b b' : Bridge H) : Option (Option H) → Prop
  | some handler => b'.isRegistered id = true → (b'.slots.get? id).map (·.handler) = handler
  | none => KeepsSlot id b b'

theorem KeepsSlot.refl (id : HotkeyId) (b : Bridge H) : KeepsSlot id b b :=
  fun registered => ⟨registered, rfl⟩

/-- Of two changes in a row the later one has the last word. -/
theorem Shows.trans {b₁ b₂ b₃ : Bridge H} {r₁ r₂ : Option (Option H)} (first : Shows id b₁ b₂ r₁)
    (second : Shows id b₂ b₃ r₂) : Shows id b₁ b₃ (r₂.or r₁) := by
  cases r₂ with
  | some handler => exact second
  | none =>
    cases r₁ with
    | some handler =>
      intro registered
      obtain ⟨registered, slot⟩ := second registered
      rw [slot]
      exact first registered
    | none =>
      intro registered
      obtain ⟨registered, slot⟩ := second registered
      rw [slot]
      exact first registered

theorem discard_keepsSlot (b : Bridge H) (other : HotkeyId) (handler : H) :
    KeepsSlot id b (b.discard other handler) := by
  intro registered
  rw [discard_slots]
  simp only [isRegistered, discard_handles] at registered
  exact ⟨registered, rfl⟩

theorem withdraw_keepsSlot (b : Bridge H) (other : HotkeyId) (backend : Backend) :
    KeepsSlot id b (b.withdraw other backend) := by
  intro registered
  obtain ⟨holding, live⟩ := isRegistered_iff.mp registered
  rw [withdraw_handles] at live
  obtain ⟨different, live⟩ := Table.get?_erase_eq_some_iff.mp live
  rw [withdraw_slots, Table.get?_erase, if_neg different]
  exact ⟨isRegistered_iff.mpr ⟨holding, live⟩, rfl⟩

theorem enroll_shows (paired : b.Paired) {other : HotkeyId} (free : ¬ b.isRegistered other = true)
    (chord : Chord) (os : OsHandle) (backend : Backend) :
    Shows id b (b.enroll other chord os backend)
      (if other = id then some none else none) := by
  split
  · rename_i same
    subst same
    intro _
    exact congrArg _ (paired.slot_eq_none_of_free free)
  · rename_i different
    intro registered
    obtain ⟨holding, live⟩ := isRegistered_iff.mp registered
    simp only [enroll, Table.get?_insert, if_neg (Ne.symm different)] at live
    exact ⟨isRegistered_iff.mpr ⟨holding, live⟩, rfl⟩

theorem fill_shows (b : Bridge H) (other : HotkeyId) (handler : H) :
    Shows id b (b.fill other handler) (if other = id then some (some handler) else none) := by
  split
  · rename_i same
    subst same
    intro _
    simp [fill_eq, Table.get?_insert]
  · rename_i different
    intro registered
    rw [fill_eq, Table.get?_insert, if_neg (Ne.symm different)]
    exact ⟨registered, rfl⟩

theorem Shows.fill {other : HotkeyId}
    (enrolled : Shows id b b' (if other = id then some none else none)) (handler : H) :
    Shows id b (b'.fill other handler) (if other = id then some (some handler) else none) := by
  have both := enrolled.trans (fill_shows b' other handler)
  by_cases same : other = id
  · rw [if_pos same, if_pos same] at both
    rw [if_pos same]
    exact both
  · rw [if_neg same, if_neg same] at both
    rw [if_neg same]
    exact both

/-- A registration that is rolled back leaves no trace in the slots. -/
theorem Shows.rollback {other : HotkeyId}
    (enrolled : Shows id b b' (if other = id then some none else none)) (backend : Backend) :
    KeepsSlot id b (b'.withdraw other backend) := by
  by_cases same : other = id
  · subst same
    intro registered
    obtain ⟨holding, live⟩ := isRegistered_iff.mp registered
    rw [withdraw_handles] at live
    exact absurd rfl (Table.get?_erase_eq_some_iff.mp live).1
  · rw [if_neg same] at enrolled
    have withdrawn : Shows id b' (b'.withdraw other backend) none :=
      withdraw_keepsSlot b' other backend
    exact enrolled.trans withdrawn

theorem clearSlot_shows (b : Bridge H) (other : HotkeyId) :
    Shows id b (b.clearSlot other) (if other = id then some none else none) := by
  split
  · rename_i same
    subst same
    intro _
    simp [Table.get?_erase]
  · rename_i different
    intro registered
    rw [clearSlot_slots, Table.get?_erase, if_neg (Ne.symm different)]
    simp only [isRegistered, clearSlot_handles] at registered
    exact ⟨registered, rfl⟩

/-- Each move leaves in a slot what its log entry says about it, and otherwise what was there. -/
theorem Paired.take_shows (paired : b.Paired) (m : Move H) (id : HotkeyId) :
    Shows id b (b.take m).2 (rebinds id (m, (b.take m).1)) := by
  cases m with
  | register env other chord =>
    simp only [Bridge.take, answer, paired.register_eq]
    split
    · exact .refl id b
    · cases b.backend.register env other chord with
      | error e => exact .refl id b
      | ok granted => exact enroll_shows paired ‹_› chord granted.1 granted.2
  | bind refusal other handler =>
    simp only [Bridge.take, answer, paired.bind_eq]
    cases refusal with
    | some reason => exact .refl id b
    | none =>
      dsimp only
      split
      · exact discard_keepsSlot b other handler
      · split
        · exact fill_shows b other handler
        · exact discard_keepsSlot b other handler
  | registerAndBind env refusal other chord handler =>
    simp only [Bridge.take, answer, paired.registerAndBind_eq]
    split
    · exact .refl id b
    · cases b.backend.register env other chord with
      | error e => exact .refl id b
      | ok granted =>
        obtain ⟨os, backend⟩ := granted
        have enrolled : Shows id b _ _ := enroll_shows paired ‹_› chord os backend
        cases refusal with
        | none => exact enrolled.fill handler
        | some reason => exact enrolled.rollback _
  | unbind other =>
    simp only [Bridge.take, answer, paired.unbind_eq]
    split
    · exact clearSlot_shows b other
    · split
      · unfold report
        split <;> exact .refl id b
      · exact .refl id b
  | unregister env other =>
    simp only [Bridge.take, answer, paired.unregister_eq]
    cases b.handles.live.get? other with
    | none => exact .refl id b
    | some holding =>
      dsimp only
      cases b.backend.release env other holding.os <;> exact withdraw_keepsSlot b other _
  | unregisterHandle env h =>
    simp only [Bridge.take, answer, paired.unregisterHandle_eq]
    cases b.handles.live.get? h.id with
    | none => exact .refl id b
    | some holding =>
      dsimp only
      split
      · cases b.backend.release env h.id holding.os <;> exact withdraw_keepsSlot b h.id _
      · exact .refl id b
  | shutdown env =>
    intro registered
    obtain ⟨holding, live⟩ := isRegistered_iff.mp registered
    rw [Bridge.take, shutdown_handles] at live
    cases live
  | enter other =>
    simp only [Bridge.take, enter]
    split <;> exact .refl id b
  | leave =>
    intro registered
    simp only [Bridge.take, isRegistered, leave_handles] at registered
    exact ⟨registered, by rw [Bridge.take, leave_slots]⟩
  | listen listeners => exact .refl id b

/-! ## Runs -/

/-- The slot of an identifier that is registered at the end of a run holds the handler of the
latest bind in the log of that run. -/
theorem slot_run (backend : Backend) (strict : Bool) (moves : List (Move H))
    (registered : ((new backend strict).run moves).isRegistered id = true) :
    (((new backend strict).run moves).slots.get? id).map (·.handler) =
      lastBound ((new backend strict).log moves) id := by
  induction moves using List.reverseRecOn with
  | nil => cases registered
  | append_singleton moves m ih =>
    have paired : ((new backend strict).run moves).Paired := (new_paired backend strict).run moves
    have shows := paired.take_shows m id
    rw [run_append] at registered
    rw [run_append, log_append]
    change _ = lastBound (_ ++ [_]) id
    rw [lastBound_concat]
    cases tells : rebinds id (m, (((new backend strict).run moves).take m).1) with
    | some handler =>
      rw [tells] at shows
      exact shows registered
    | none =>
      rw [tells] at shows
      obtain ⟨before, slot⟩ := shows registered
      exact (congrArg _ slot).trans (ih before)

end Hotkeys.Bridge
