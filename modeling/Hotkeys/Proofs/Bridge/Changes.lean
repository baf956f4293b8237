import Hotkeys.Bridge.Basic

/-!
# What can change in a bridge

The operations of a bridge are made of a few changes. For each of them it is told here what it
leaves in the tables and with the dispatches under way; the counter of the cells is left out.
-/

namespace Hotkeys.Bridge

variable {H : Type}

/-- Every identifier that has a slot has a table entry. -/
def Paired (b : Bridge H) : Prop := ∀ id, b.isBound id = true → b.isRegistered id = true

theorem isRegistered_iff {b : Bridge H} {id : HotkeyId} :
    b.isRegistered id = true ↔ ∃ holding, b.handles.live.get? id = some holding :=
  Table.contains_iff

theorem isBound_iff {b : Bridge H} {id : HotkeyId} :
    b.isBound id = true ↔ ∃ c, b.slots.get? id = some c :=
  Table.contains_iff

theorem slot_eq_none_of_not_isBound {b : Bridge H} {id : HotkeyId}
    (unbound : ¬ b.isBound id = true) : b.slots.get? id = none := by
  simpa [isBound, Table.contains] using unbound

theorem Paired.slot_eq_none_of_free {b : Bridge H} (paired : b.Paired) {id : HotkeyId}
    (free : ¬ b.isRegistered id = true) : b.slots.get? id = none :=
  slot_eq_none_of_not_isBound fun bound => free (paired id bound)

/-! ## Changes -/

/-- A registration that the backend has accepted is entered in the table. -/
def enroll (b : Bridge H) (id : HotkeyId) (chord : Chord) (os : OsHandle) (backend : Backend) :
    Bridge H :=
  { b with
    handles :=
      { live := b.handles.live.insert id ⟨os, chord, b.handles.nextSerial⟩
        nextSerial := b.handles.nextSerial + 1 }
    backend }

/-- A handler is stored and put into a slot. -/
def fill (b : Bridge H) (id : HotkeyId) (handler : H) : Bridge H :=
  { (b.store id handler).2 with slots := b.slots.insert id (b.store id handler).1 }

/-- A handler is stored and given back at once. -/
def discard (b : Bridge H) (id : HotkeyId) (handler : H) : Bridge H :=
  (b.store id handler).2.reclaim (b.store id handler).1

/-- The table entry and the slot of an identifier are given up, with a backend that has released
the combination or not. -/
def withdraw (b : Bridge H) (id : HotkeyId) (backend : Backend) : Bridge H :=
  let rest : Bridge H :=
    { b with
      handles := { b.handles with live := b.handles.live.erase id }
      slots := b.slots.erase id
      backend }
  (b.slots.get? id).elim rest rest.reclaim

/-- The backend after a list of releases, each of which it may refuse. -/
def releaseEach (env : Conditions) (backend : Backend) (detached : List Detached) : Backend :=
  detached.foldl (fun backend d =>
    match d.release backend env with
    | .ok backend => backend
    | .error _ => backend) backend

/-! ## What the changes leave alone -/

theorem reclaim_eq (b : Bridge H) (c : Cell H) :
    b.reclaim c = { b with counter := (b.reclaim c).counter } := by
  unfold reclaim
  split <;> rfl

theorem foldl_reclaim_eq (cells : List (Cell H)) (b : Bridge H) :
    cells.foldl reclaim b = { b with counter := (cells.foldl reclaim b).counter } := by
  induction cells generalizing b with
  | nil => rfl
  | cons c rest ih =>
    rw [List.foldl_cons, ih, reclaim_eq b c]

theorem releaseAll_eq (b : Bridge H) (env : Conditions) (detached : List Detached) :
    b.releaseAll env detached = { b with backend := releaseEach env b.backend detached } := by
  unfold releaseAll releaseEach
  induction detached generalizing b with
  | nil => rfl
  | cons d rest ih =>
    rw [List.foldl_cons, List.foldl_cons, ih]
    cases d.release b.backend env <;> rfl

theorem fill_eq (b : Bridge H) (id : HotkeyId) (handler : H) :
    b.fill id handler =
      { b with
        slots := b.slots.insert id ⟨b.nextToken, id, handler⟩
        nextToken := b.nextToken + 1
        counter := b.counter + 1 } := rfl

theorem discard_eq (b : Bridge H) (id : HotkeyId) (handler : H) :
    b.discard id handler =
      { b with
        nextToken := b.nextToken + 1
        counter := (b.discard id handler).counter } := by
  unfold discard
  rw [reclaim_eq]
  rfl

@[simp] theorem discard_handles (b : Bridge H) (id : HotkeyId) (handler : H) :
    (b.discard id handler).handles = b.handles := by rw [discard_eq]

@[simp] theorem discard_slots (b : Bridge H) (id : HotkeyId) (handler : H) :
    (b.discard id handler).slots = b.slots := by rw [discard_eq]

@[simp] theorem discard_backend (b : Bridge H) (id : HotkeyId) (handler : H) :
    (b.discard id handler).backend = b.backend := by rw [discard_eq]

theorem clearSlot_eq (b : Bridge H) (id : HotkeyId) :
    b.clearSlot id =
      { b with slots := b.slots.erase id, counter := (b.clearSlot id).counter } := by
  unfold clearSlot
  cases held : b.slots.get? id with
  | none => rw [Table.erase_of_get?_eq_none held]
  | some c =>
    dsimp only
    rw [reclaim_eq]

@[simp] theorem clearSlot_handles (b : Bridge H) (id : HotkeyId) :
    (b.clearSlot id).handles = b.handles := by rw [clearSlot_eq]

@[simp] theorem clearSlot_slots (b : Bridge H) (id : HotkeyId) :
    (b.clearSlot id).slots = b.slots.erase id := by rw [clearSlot_eq]

@[simp] theorem clearSlot_backend (b : Bridge H) (id : HotkeyId) :
    (b.clearSlot id).backend = b.backend := by rw [clearSlot_eq]

theorem withdraw_eq (b : Bridge H) (id : HotkeyId) (backend : Backend) :
    b.withdraw id backend =
      { b with
        handles := { b.handles with live := b.handles.live.erase id }
        slots := b.slots.erase id
        backend
        counter := (b.withdraw id backend).counter } := by
  unfold withdraw
  cases b.slots.get? id with
  | none => rfl
  | some c =>
    dsimp only [Option.elim_some]
    rw [reclaim_eq]

@[simp] theorem withdraw_handles (b : Bridge H) (id : HotkeyId) (backend : Backend) :
    (b.withdraw id backend).handles = { b.handles with live := b.handles.live.erase id } := by
  rw [withdraw_eq]

@[simp] theorem withdraw_slots (b : Bridge H) (id : HotkeyId) (backend : Backend) :
    (b.withdraw id backend).slots = b.slots.erase id := by rw [withdraw_eq]

@[simp] theorem withdraw_backend (b : Bridge H) (id : HotkeyId) (backend : Backend) :
    (b.withdraw id backend).backend = backend := by rw [withdraw_eq]

theorem shutdown_eq (b : Bridge H) (env : Conditions) :
    (b.shutdown env).2 =
      { b with
        handles := { b.handles with live := .empty }
        slots := .empty
        backend := releaseEach env b.backend b.handles.detachAll.1
        counter := (b.shutdown env).2.counter } := by
  simp only [shutdown]
  rw [foldl_reclaim_eq, releaseAll_eq]
  rfl

@[simp] theorem shutdown_handles (b : Bridge H) (env : Conditions) :
    (b.shutdown env).2.handles = { b.handles with live := .empty } := by rw [shutdown_eq]

@[simp] theorem shutdown_slots (b : Bridge H) (env : Conditions) :
    (b.shutdown env).2.slots = .empty := by rw [shutdown_eq]

@[simp] theorem shutdown_backend (b : Bridge H) (env : Conditions) :
    (b.shutdown env).2.backend = releaseEach env b.backend b.handles.detachAll.1 := by
  rw [shutdown_eq]

@[simp] theorem shutdown_running (b : Bridge H) (env : Conditions) :
    (b.shutdown env).2.running = b.running := by rw [shutdown_eq]

/-- A dispatch begins for a registered identifier, with the cell that is in its slot now. -/
theorem enter_eq_some_iff {b b' : Bridge H} {id : HotkeyId} :
    b.enter id = some b' ↔
      b.isRegistered id = true ∧ { b with running := b.slots.get? id :: b.running } = b' := by
  simp [enter]

theorem leave_eq (b : Bridge H) :
    b.leave = { b with running := b.running.tail, counter := b.leave.counter } := by
  unfold leave
  cases running : b.running with
  | nil =>
    obtain ⟨⟩ := b
    simp_all
  | cons frame rest =>
    cases frame with
    | none => rfl
    | some c =>
      dsimp only
      rw [reclaim_eq]
      rfl

@[simp] theorem leave_handles (b : Bridge H) : b.leave.handles = b.handles := by rw [leave_eq]

@[simp] theorem leave_slots (b : Bridge H) : b.leave.slots = b.slots := by rw [leave_eq]

@[simp] theorem leave_backend (b : Bridge H) : b.leave.backend = b.backend := by rw [leave_eq]

@[simp] theorem leave_running (b : Bridge H) : b.leave.running = b.running.tail := by rw [leave_eq]

/-! ## Pairing -/

/-- A bridge stays paired if slots go and entries come. -/
theorem Paired.of_subset {b b' : Bridge H} (paired : b.Paired)
    (slots : ∀ id c, b'.slots.get? id = some c → ∃ c, b.slots.get? id = some c)
    (handles : ∀ id holding, b.handles.live.get? id = some holding →
      ∃ holding, b'.handles.live.get? id = some holding) : b'.Paired := by
  intro id bound
  obtain ⟨c', held⟩ := isBound_iff.mp bound
  obtain ⟨holding, live⟩ := isRegistered_iff.mp (paired id (isBound_iff.mpr (slots id c' held)))
  exact isRegistered_iff.mpr (handles id holding live)

@[simp] theorem enroll_backend (b : Bridge H) (id : HotkeyId) (chord : Chord) (os : OsHandle)
    (backend : Backend) : (b.enroll id chord os backend).backend = backend := rfl

theorem enroll_get?_self (b : Bridge H) (id : HotkeyId) (chord : Chord) (os : OsHandle)
    (backend : Backend) :
    (b.enroll id chord os backend).handles.live.get? id =
      some ⟨os, chord, b.handles.nextSerial⟩ := by
  simp [enroll, Table.get?_insert]

theorem enroll_chord? (b : Bridge H) (id other : HotkeyId) (chord : Chord) (os : OsHandle)
    (backend : Backend) :
    (b.enroll id chord os backend).chord? other =
      if other = id then some chord else b.chord? other := by
  simp only [chord?, Handles.chord?, enroll, Table.get?_insert]
  split <;> rfl

theorem withdraw_chord? (b : Bridge H) (id other : HotkeyId) (backend : Backend) :
    (b.withdraw id backend).chord? other = if other = id then none else b.chord? other := by
  simp only [chord?, Handles.chord?, withdraw_handles, Table.get?_erase]
  split <;> rfl

theorem enroll_isRegistered (b : Bridge H) (id : HotkeyId) (chord : Chord) (os : OsHandle)
    (backend : Backend) : (b.enroll id chord os backend).isRegistered id = true :=
  isRegistered_iff.mpr ⟨_, b.enroll_get?_self id chord os backend⟩

theorem Paired.enroll {b : Bridge H} (paired : b.Paired) (id : HotkeyId) (chord : Chord)
    (os : OsHandle) (backend : Backend) : (b.enroll id chord os backend).Paired := by
  refine paired.of_subset (fun _ c held => ⟨c, held⟩) ?_
  intro other holding live
  simp only [Bridge.enroll, Table.get?_insert]
  split
  · exact ⟨_, rfl⟩
  · exact ⟨holding, live⟩

theorem Paired.withdraw {b : Bridge H} (paired : b.Paired) (id : HotkeyId) (backend : Backend) :
    (b.withdraw id backend).Paired := by
  intro other bound
  obtain ⟨c, held⟩ := isBound_iff.mp bound
  rw [withdraw_slots] at held
  obtain ⟨different, held⟩ := Table.get?_erase_eq_some_iff.mp held
  obtain ⟨holding, live⟩ := isRegistered_iff.mp (paired other (isBound_iff.mpr ⟨c, held⟩))
  refine isRegistered_iff.mpr ⟨holding, ?_⟩
  rw [withdraw_handles]
  exact Table.get?_erase_eq_some_iff.mpr ⟨different, live⟩

end Hotkeys.Bridge
