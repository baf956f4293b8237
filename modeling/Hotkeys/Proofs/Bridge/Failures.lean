import Hotkeys.Proofs.Bridge.Cells
import Hotkeys.Proofs.Bridge.Effects
import Hotkeys.Proofs.Bridge.System

/-!
# What a failed operation leaves behind

An operation on a single identifier can fail in two ways. Either it does nothing at all, although
a handler may have been stored and given back by then, or the system has refused a release. Only
in the second case something is gone: the table entry and the slot of that identifier.
-/

namespace Hotkeys.Bridge

variable {H : Type} {b : Bridge H}

/-! ## Cells that are given back -/

/-- A handler that is stored and given back at once leaves nothing but a token that has been
used. -/
theorem Tidy.discard_eq (tidy : b.Tidy []) (id : HotkeyId) (handler : H) :
    b.discard id handler = { b with nextToken := b.nextToken + 1 } := by
  have stored := tidy.store id handler
  have free : ¬ (b.store id handler).2.holds (b.store id handler).1 = true := by
    intro held
    have old : (b.store id handler).1 ∈ b.cells := stored.holds_iff.mp held
    have issued := Finset.mem_Ico.mp (tidy.issued _ (List.mem_append_left _ old))
    exact absurd issued.2 (Nat.lt_irrefl _)
  rw [Bridge.discard, Bridge.reclaim, if_neg free]
  have balanced : b.counter + 1 - 1 = b.counter := by omega
  simp only [Bridge.store, balanced]

/-- The number of cells that are given back when the slot of an identifier is emptied: a dispatch
under way keeps the cell that it has found. -/
def freed (b : Bridge H) (id : HotkeyId) : Nat :=
  match b.slots.get? id with
  | none => 0
  | some c => if b.running.any fun frame => frame.any (·.token == c.token) then 0 else 1

/-- A cell that has left its slot is given back unless a dispatch under way keeps it. -/
theorem reclaim_counter {c : Cell H} (emptied : b.slots.get? c.id = none) :
    (b.reclaim c).counter +
      (if b.running.any fun frame => frame.any (·.token == c.token) then 0 else 1 : Nat) =
        b.counter := by
  simp only [Bridge.reclaim, holds, emptied, Option.any_none, Bool.false_or]
  split <;> simp

/-- A cell lies in one slot only, that of its own identifier. -/
theorem Tidy.get?_erase_filed (tidy : b.Tidy []) {id : HotkeyId} {c : Cell H}
    (slot : b.slots.get? id = some c) : (b.slots.erase id).get? c.id = none := by
  rw [tidy.filed slot, Table.get?_erase, if_pos rfl]

/-- Emptying a slot gives its cell back, unless a dispatch still holds the cell. -/
theorem Tidy.clearSlot_counter (tidy : b.Tidy []) (id : HotkeyId) :
    (b.clearSlot id).counter + b.freed id = b.counter := by
  unfold Bridge.clearSlot freed
  cases slot : b.slots.get? id with
  | none => simp
  | some c => exact reclaim_counter (tidy.get?_erase_filed slot)

/-- Giving a registration up gives its cell back, unless a dispatch still holds the cell. -/
theorem Tidy.withdraw_counter (tidy : b.Tidy []) (id : HotkeyId) (backend : Backend) :
    (b.withdraw id backend).counter + b.freed id = b.counter := by
  unfold Bridge.withdraw freed
  cases slot : b.slots.get? id with
  | none => simp
  | some c => exact reclaim_counter (tidy.get?_erase_filed slot)

theorem Tidy.liveSlots_withdraw (tidy : b.Tidy []) (id : HotkeyId) (backend : Backend) :
    (b.withdraw id backend).liveSlots + b.freed id = b.liveSlots := by
  have before := tidy.counted
  have after := (tidy.withdraw id backend).counted
  have difference := tidy.withdraw_counter id backend
  unfold liveSlots
  omega

/-! ## Failures -/

/-- The system refuses a release with an error of its own, and the registration is still there. -/
theorem Backed.refused {s : Backend.Simulated} (backed : b.Backed s) {env : Conditions}
    {id : HotkeyId} {holding : Holding} {e : Error}
    (entry : b.handles.live.get? id = some holding)
    (answer : b.backend.release env id holding.os = .error e) :
    (∃ reason, e = .unregistration id reason) ∧
      ∃ n, holding.os = .numbered n ∧ s.grant? n = some ⟨n, id, holding.chord⟩ := by
  obtain ⟨n, os, grant⟩ := backed.granted entry
  rw [backed.backend] at answer
  exact ⟨Backend.release_simulated_error answer, n, os, backed.numbered.grant?_eq_some grant⟩

/-- In every state that a bridge can reach, an operation on an identifier that fails, or that a
strict bridge aborts, leaves all as it was; only the tokens of the cells may have gone on. The
exception is a release that the system refuses: the table entry and the slot of that identifier are
gone all the same, while its registration is still there. -/
theorem failure_run (strict : Bool) (moves : List (Move H)) (op : Operation H) {e : Error}
    (failed : (((new (.simulated {}) strict).run moves).perform op).1.error? = some e) :
    let b := (new (.simulated {}) strict).run moves
    let after := (b.perform op).2
    (e.isUnregistration = false → after = { b with nextToken := after.nextToken }) ∧
    (e.isUnregistration = true →
      (b.perform op).1 = .failed e ∧ op.target = .unregistered ∧
      (∃ reason, e = .unregistration op.id reason) ∧
      after = { b with
        handles := { b.handles with live := b.handles.live.erase op.id }
        slots := b.slots.erase op.id
        counter := after.counter } ∧
      after.liveSlots + b.freed op.id = b.liveSlots ∧
      ∃ s holding n, after.backend = .simulated s ∧
        b.handles.live.get? op.id = some holding ∧ holding.os = .numbered n ∧
        s.grant? n = some ⟨n, op.id, holding.chord⟩) := by
  intro b
  have paired : b.Paired := (new_paired _ strict).run moves
  have tidy : b.Tidy [] := new_tidy_run _ strict moves
  obtain ⟨s, backed, -⟩ : b.Agrees true := new_agrees_run true strict moves fun _ => rfl
  have effect := paired.effect op
  change (b.perform op).1.error? = some e at failed
  generalize b.perform op = r at effect failed ⊢
  cases effect with
  | rejected cause =>
    refine ⟨fun _ => rfl, fun refused => ?_⟩
    exact absurd ((cause e failed).symm.trans refused) (by decide)
  | discarded cause =>
    cases failed
    refine ⟨fun _ => ?_, fun refused => ?_⟩
    · dsimp only
      rw [tidy.discard_eq]
    · exact absurd (cause.symm.trans refused) (by decide)
  | enrolled => cases failed
  | filled => cases failed
  | cleared => cases failed
  | withdrawn => cases failed
  | refused releases entry answer =>
    cases failed
    obtain ⟨⟨reason, rfl⟩, n, os, grant⟩ := backed.refused entry answer
    refine ⟨(fun other => nomatch other), fun _ => ?_⟩
    refine ⟨rfl, releases, ⟨reason, rfl⟩, ?_, tidy.liveSlots_withdraw op.id b.backend, s, _, n, ?_,
      entry, os, grant⟩
    · dsimp only
      rw [withdraw_eq]
    · rw [withdraw_backend, backed.backend]

/-- Hotkey 7 is bound, and the system does not let go of it. -/
theorem failure_run_busy :
    let busy : Conditions := { releaseFault := fun _ => some "busy" }
    let b : Bridge Unit :=
      (new (.simulated {}) true).run [.registerAndBind {} none 7 { key := 0x04 } ()]
    let after := (b.perform (.unregister busy 7)).2
    (b.perform (.unregister busy 7)).1.error? = some (.unregistration 7 "busy") ∧
      after.handles.live.get? 7 = none ∧ after.liveSlots + 1 = b.liveSlots ∧
      after.backend.hears 7 = true := by
  intro busy b after
  have failed : (b.perform (.unregister busy 7)).1.error? = some (.unregistration 7 "busy") := rfl
  obtain ⟨-, left⟩ := failure_run true [.registerAndBind {} none 7 { key := 0x04 } ()]
    (.unregister busy 7) failed
  obtain ⟨-, -, -, rest, slots, -⟩ := left rfl
  refine ⟨failed, ?_, slots, rfl⟩
  have gone : after = _ := rest
  rw [gone]
  exact (Table.get?_erase ..).trans (if_pos rfl)

end Hotkeys.Bridge
