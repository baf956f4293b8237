import Hotkeys.Proofs.Bridge.Failures
import Hotkeys.Proofs.Bridge.Lifecycle
import Mathlib.Data.Multiset.AddSub

/-!
# What an operation adds and what it takes away

The registrations of the system and the cells of a bridge belong to no single identifier, and an
operation is told by what it adds to them and what it takes away. Both follow from the life of its
identifier and from what it comes to.
-/

namespace Hotkeys

namespace Backend.Simulated

variable {s : Simulated}

/-- A registration that is released is the only one that goes. -/
theorem perm_remove (numbered : s.Numbered) {g : Grant} (live : g ∈ s.live) :
    s.live.Perm (g :: (s.remove g.number).live) := by
  have other : ∀ g' ∈ s.live, (g'.number != g.number) = (g' != g) := by
    intro g' live'
    by_cases same : g' = g
    · simp [same]
    · have number : g'.number ≠ g.number := fun h => same (numbered.eq_of_number live' live h)
      rw [bne_iff_ne.mpr same, bne_iff_ne.mpr number]
  have rest : (s.remove g.number).live = s.live.erase g := by
    rw [(numbered.nodup.of_map _).erase_eq_filter]
    exact List.filter_congr other
  rw [rest]
  exact List.perm_cons_erase live

end Backend.Simulated

namespace Bridge

variable {H : Type} {b : Bridge H} {s : Backend.Simulated}

/-! ## Operations -/

namespace Operation

/-- The combination that an operation registers unless the system has something against it. -/
def wants (op : Operation H) (life : Life H) : Option Chord :=
  match op, life with
  | .register _ _ chord, .unregistered => some chord
  | _, _ => none

/-- The combination whose registration an operation gives up. -/
def yields (op : Operation H) (life : Life H) : Option Chord :=
  match op with
  | .unregister .. => life.chord?
  | .unregisterHandle _ h => if life.handle? = some h then life.chord? else none
  | _ => none

/-- Whether an operation empties the slot of its identifier. -/
def clears (op : Operation H) (life : Life H) : Bool :=
  match op with
  | .unbind _ | .unregister .. => true
  | .unregisterHandle _ h => decide (life.handle? = some h)
  | _ => false

/-- The number of handlers that an operation puts into a slot. -/
def fills (op : Operation H) (o : Outcome Answer) : Nat :=
  match op, o with
  | .bind .., .done _ => 1
  | _, _ => 0

end Operation

/-! ## Accounts -/

/-- The identifiers and the combinations that the system has registered. -/
def pairs (b : Bridge H) : Multiset (HotkeyId × Chord) :=
  match b.backend with
  | .simulated s => s.live.map fun g => (g.id, g.chord)
  | .portable _ => 0

/-- What an operation that succeeds changes at the registrations of the system. -/
def settled (o : Outcome Answer) (id : HotkeyId) (chord? : Option Chord) :
    Multiset (HotkeyId × Chord) :=
  match o, chord? with
  | .done _, some chord => {(id, chord)}
  | _, _ => 0

/-- The registrations and the cells that an operation adds and takes away. -/
structure Account (b : Bridge H) (op : Operation H) (r : Outcome Answer × Bridge H) : Prop where
  pairs : b.pairs + settled r.1 op.id (op.wants (b.life op.id)) =
    r.2.pairs + settled r.1 op.id (op.yields (b.life op.id))
  cells : r.2.counter + (if op.clears (b.life op.id) then b.freed op.id else 0 : Nat) =
    b.counter + op.fills r.1

/-- What the system has is what the bridge can be told to hold of it. -/
theorem Backed.pairs_eq (backed : b.Backed s) :
    b.pairs = (s.live.map fun g => (g.id, g.chord) : List _) := by
  rw [pairs, backed.backend]

namespace Account

variable {op : Operation H} {id : HotkeyId}

/-- An operation that fails and empties no slot changes nothing. -/
theorem rejected {o : Outcome Answer} {e : Error} (failed : o.error? = some e)
    (kept : op.clears (b.life op.id) = false ∨ b.slots.get? op.id = none) :
    b.Account op (o, b) := by
  have nothing : (∀ chord?, settled o op.id chord? = 0) ∧ op.fills o = 0 := by
    cases o with
    | done a => cases failed
    | failed | aborted => exact ⟨fun _ => rfl, by cases op <;> rfl⟩
  have freed : (if op.clears (b.life op.id) then b.freed op.id else 0) = 0 := by
    obtain keeps | slot := kept
    · simp [keeps]
    · simp [Bridge.freed, slot]
  refine ⟨by simp [nothing.1], ?_⟩
  dsimp only
  rw [nothing.2, freed]

theorem reported (kept : op.clears (b.life op.id) = false ∨ b.slots.get? op.id = none) :
    b.Account op ((b.report (.doubleRelease id) : Outcome Unit).map fun _ => .unit, b) := by
  rw [report_doubleRelease, Life.mistake]
  split
  · exact rejected rfl kept
  · exact rejected rfl kept

theorem discarded (tidy : b.Tidy []) (id : HotkeyId) (handler : H) (e : Error) :
    b.Account (.bind none id handler) (.failed e, b.discard id handler) := by
  rw [tidy.discard_eq]
  exact ⟨rfl, rfl⟩

theorem filled (id : HotkeyId) (handler : H) :
    b.Account (.bind none id handler) (.done .unit, b.fill id handler) :=
  ⟨rfl, Int.add_zero _⟩

theorem cleared (tidy : b.Tidy []) (id : HotkeyId) :
    b.Account (.unbind id) (.done .unit, b.clearSlot id) := by
  refine ⟨?_, ?_⟩
  · rw [Bridge.pairs, Bridge.pairs, clearSlot_backend]
    rfl
  · exact (tidy.clearSlot_counter id).trans (by simp [Operation.fills])

/-- A registration adds its own pair to the system and no cell. -/
theorem enrolled (backed : b.Backed s) {env : Conditions} {chord : Chord} {os : OsHandle}
    {backend : Backend} (free : b.life id = .unregistered)
    (accepted : b.backend.register env id chord = .ok (os, backend)) (h : Handle) :
    b.Account (.register env id chord) (.done (.handle h), b.enroll id chord os backend) := by
  rw [backed.backend] at accepted
  obtain ⟨rfl, rfl⟩ := Backend.register_simulated accepted
  refine ⟨?_, rfl⟩
  rw [backed.pairs_eq, (backed.enroll id chord).pairs_eq]
  simp only [Operation.id, free, Operation.wants, Operation.yields, settled]
  rw [add_zero, add_comm]
  rfl

/-- A release that the system is asked for takes its registration away unless it is refused, and
the slot is emptied in any case. -/
theorem released (op : Operation H) (backed : b.Backed s) (tidy : b.Tidy []) {env : Conditions}
    {holding : Holding} (entry : b.handles.live.get? op.id = some holding)
    (wants : op.wants (b.life op.id) = none)
    (yields : op.yields (b.life op.id) = some holding.chord)
    (clears : op.clears (b.life op.id) = true) (unfilled : ∀ o, op.fills o = 0) :
    let r : Outcome Unit × Bridge H :=
      match b.backend.release env op.id holding.os with
      | .ok backend => (.done (), b.withdraw op.id backend)
      | .error e => (.failed e, b.withdraw op.id b.backend)
    b.Account op (r.1.map fun _ => .unit, r.2) := by
  have cells : ∀ backend, (b.withdraw op.id backend).counter +
      (if op.clears (b.life op.id) then b.freed op.id else 0 : Nat) = b.counter := by
    intro backend
    rw [if_pos clears]
    exact tidy.withdraw_counter op.id backend
  dsimp only
  cases answer : b.backend.release env op.id holding.os with
  | error e =>
    refine ⟨?_, ?_⟩
    · rw [backed.pairs_eq, (backed.abandon op.id).pairs_eq]
      rfl
    · rw [unfilled]
      exact (cells _).trans (Int.add_zero _).symm
  | ok backend =>
    obtain ⟨n, os, grant⟩ := backed.granted entry
    have gone : backend = .simulated (s.remove n) := by
      rw [backed.backend] at answer
      obtain ⟨m, same, rfl⟩ := Backend.release_simulated answer
      cases os.symm.trans same
      rfl
    refine ⟨?_, ?_⟩
    · have perm := (Backend.Simulated.perm_remove backed.numbered grant).map
        fun g => (g.id, g.chord)
      simp only [wants, yields, settled, Outcome.map]
      rw [add_zero, gone, backed.pairs_eq, (backed.withdraw entry os).pairs_eq,
        Multiset.coe_eq_coe.mpr perm, add_comm (Multiset.ofList ((s.remove n).live.map _))]
      rfl
    · rw [unfilled]
      exact (cells _).trans (Int.add_zero _).symm

end Account

/-! ## The account of every operation -/

namespace Paired

variable {id : HotkeyId} {holding : Holding}

/-- There is no slot without an entry. -/
theorem slot_eq_none_of_entry (paired : b.Paired) (entry : b.handles.live.get? id = none) :
    b.slots.get? id = none := by
  refine paired.slot_eq_none_of_free fun registered => ?_
  obtain ⟨holding, live⟩ := isRegistered_iff.mp registered
  cases entry.symm.trans live

theorem life_chord? (paired : b.Paired) (entry : b.handles.live.get? id = some holding) :
    (b.life id).chord? = some holding.chord := by
  rw [← (paired.lives id).chord?, chord?, Handles.chord?, entry]
  rfl

theorem life_handle?_iff (paired : b.Paired) {h : Handle}
    (entry : b.handles.live.get? h.id = some holding) :
    (b.life h.id).handle? = some h ↔ holding.serial = h.serial := by
  rw [← (paired.lives h.id).handle?]
  obtain ⟨id, serial⟩ := h
  simp [handle?, Handles.handle?, entry]

/-- What an operation does to the registrations and the cells follows from the life of its
identifier and from what it comes to. -/
theorem account (paired : b.Paired) (backed : b.Backed s) (tidy : b.Tidy [])
    (op : Operation H) : b.Account op (b.perform op) := by
  cases op with
  | register env id chord =>
    have registered := (paired.lives id).isRegistered
    simp only [perform, Operation.move, Bridge.take, answer, paired.register_eq]
    cases life : b.life id with
    | unregistered =>
      rw [life] at registered
      simp only [registered, Life.phase, Phase.isRegistered]
      cases accepted : b.backend.register env id chord with
      | error e => exact .rejected rfl (.inl rfl)
      | ok granted => exact .enrolled backed life accepted _
    | registered | bound =>
      rw [life] at registered
      simp only [registered, Life.phase, Phase.isRegistered]
      exact .rejected rfl (.inl rfl)
  | bind refusal id handler =>
    simp only [perform, Operation.move, Bridge.take, answer, paired.bind_eq]
    cases refusal with
    | some reason => exact .rejected rfl (.inl rfl)
    | none =>
      dsimp only
      split
      · exact .discarded tidy id handler _
      · split
        · exact .filled id handler
        · exact .discarded tidy id handler _
  | unbind id =>
    simp only [perform, Operation.move, Bridge.take, answer, paired.unbind_eq]
    split
    · exact .cleared tidy id
    · have slot : b.slots.get? id = none := slot_eq_none_of_not_isBound ‹_›
      split
      · exact .reported (.inr slot)
      · exact .rejected rfl (.inr slot)
  | unregister env id =>
    simp only [perform, Operation.move, Bridge.take, answer, paired.unregister_eq]
    cases entry : b.handles.live.get? id with
    | none => exact .rejected rfl (.inr (paired.slot_eq_none_of_entry entry))
    | some holding =>
      have yields : (b.life id).chord? = some holding.chord := paired.life_chord? entry
      exact .released (.unregister env id) backed tidy entry rfl yields rfl fun _ => rfl
  | unregisterHandle env h =>
    simp only [perform, Operation.move, Bridge.take, answer, paired.unregisterHandle_eq]
    cases entry : b.handles.live.get? h.id with
    | none => exact .reported (.inr (paired.slot_eq_none_of_entry entry))
    | some holding =>
      have current := paired.life_handle?_iff entry
      dsimp only
      split
      · have mine : (b.life h.id).handle? = some h := current.mpr ‹_›
        refine .released (.unregisterHandle env h) backed tidy entry rfl ?_ ?_ fun _ => rfl
        · exact (if_pos mine).trans (paired.life_chord? entry)
        · exact decide_eq_true mine
      · rename_i stale
        exact .reported (.inl (decide_eq_false fun mine => stale (current.mp mine)))

end Paired

end Bridge

end Hotkeys
