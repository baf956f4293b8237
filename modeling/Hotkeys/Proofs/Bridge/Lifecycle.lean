import Hotkeys.Proofs.Bridge.Effects

/-!
# The life of an identifier

An identifier is unregistered, registered, or registered and bound to a handler. `Life.step` is
what an operation does to the life of its identifier, and it knows of nothing else but what the
system and the store of the handlers have to say. A bridge keeps the lives of all identifiers in
its two tables; each operation is a step of one life and leaves all others alone.
-/

namespace Hotkeys.Bridge

variable {H : Type} {b b' : Bridge H}

/-! ## Lives -/

inductive Life (H : Type)
  | unregistered
  | registered (h : Handle) (chord : Chord)
  | bound (h : Handle) (chord : Chord) (handler : H)

namespace Life

def phase : Life H → Phase
  | unregistered => .unregistered
  | registered .. => .registered
  | bound .. => .bound

def handle? : Life H → Option Handle
  | unregistered => none
  | registered h _ | bound h _ _ => some h

def chord? : Life H → Option Chord
  | unregistered => none
  | registered _ chord | bound _ chord _ => some chord

def handler? : Life H → Option H
  | bound _ _ handler => some handler
  | _ => none

/-- A mistake of the caller, which a strict bridge does not survive. -/
def mistake (strict : Bool) (e : Error) : Outcome Answer := if strict then .aborted e else .failed e

/-- The answer to an operation against which nothing remains to be said but `objection`. -/
def concluded (objection : Option Error) (a : Answer) : Outcome Answer :=
  match objection with
  | some e => .failed e
  | none => .done a

/-- What an operation comes to, and the life of its identifier afterwards. `fresh` is the handle
for a new registration, and `objection` what the system or the store says where it is asked. The
store is asked before anything else, the system after everything else, and a registration that is
to be released is gone whatever the system says. -/
def step (strict : Bool) (fresh : Handle) (objection : Option Error) (life : Life H) :
    Operation H → Outcome Answer × Life H
  | .register _ id chord =>
    match life, objection with
    | unregistered, none => (.done (.handle fresh), registered fresh chord)
    | unregistered, some e => (.failed e, unregistered)
    | life, _ => (.failed (.duplicateIdentifier id), life)
  | .bind _ id handler =>
    match objection, life with
    | some e, life => (.failed e, life)
    | none, unregistered => (.failed (.unknownIdentifier id), unregistered)
    | none, registered h chord => (.done .unit, bound h chord handler)
    | none, bound h chord old => (.failed (.alreadyBound id), bound h chord old)
  | .unbind id =>
    match life with
    | unregistered => (.failed (.unknownIdentifier id), unregistered)
    | registered h chord => (mistake strict (.doubleRelease id), registered h chord)
    | bound h chord _ => (.done .unit, registered h chord)
  | .unregister _ id =>
    match life with
    | unregistered => (.failed (.unknownIdentifier id), unregistered)
    | _ => (concluded objection .unit, unregistered)
  | .unregisterHandle _ h =>
    if life.handle? = some h then (concluded objection .unit, unregistered)
    else (mistake strict (.doubleRelease h.id), life)

theorem mistake_ne_done (strict : Bool) (e : Error) (a : Answer) : mistake strict e ≠ .done a := by
  unfold mistake
  split <;> simp

/-- An operation that succeeds makes an allowed transition to its own phase. -/
theorem step_of_done {strict : Bool} {fresh : Handle} {objection : Option Error}
    {life : Life H} {op : Operation H} {a : Answer}
    (done : (life.step strict fresh objection op).1 = .done a) :
    life.phase.allows op.target = true ∧
      (life.step strict fresh objection op).2.phase = op.target := by
  cases op with
  | register env id chord =>
    cases life with
    | unregistered =>
      cases objection with
      | none => exact ⟨rfl, rfl⟩
      | some e => cases done
    | registered h chord => cases done
    | bound h chord handler => cases done
  | bind refusal id handler =>
    cases objection with
    | some e => cases done
    | none =>
      cases life with
      | unregistered => cases done
      | registered h chord => exact ⟨rfl, rfl⟩
      | bound h chord old => cases done
  | unbind id =>
    cases life with
    | unregistered => cases done
    | registered h chord => exact (mistake_ne_done _ _ _ done).elim
    | bound h chord handler => exact ⟨rfl, rfl⟩
  | unregister env id =>
    cases life with
    | unregistered => cases done
    | registered h chord => exact ⟨rfl, rfl⟩
    | bound h chord handler => exact ⟨rfl, rfl⟩
  | unregisterHandle env h =>
    simp only [step] at done ⊢
    split at done
    · rename_i current
      rw [if_pos current]
      cases life with
      | unregistered => cases current
      | registered h' chord => exact ⟨rfl, rfl⟩
      | bound h' chord handler => exact ⟨rfl, rfl⟩
    · exact (mistake_ne_done _ _ _ done).elim

end Life

/-! ## The tables -/

def handler? (b : Bridge H) (id : HotkeyId) : Option H := (b.slots.get? id).map (·.handler)

/-- The life of an identifier as the tables have it. -/
def life (b : Bridge H) (id : HotkeyId) : Life H :=
  match b.handles.live.get? id, b.slots.get? id with
  | none, _ => .unregistered
  | some holding, none => .registered ⟨id, holding.serial⟩ holding.chord
  | some holding, some c => .bound ⟨id, holding.serial⟩ holding.chord c.handler

/-- What the system says to the release of an identifier. -/
def releaseObjection? (b : Bridge H) (env : Conditions) (id : HotkeyId) : Option Error :=
  match b.handles.live.get? id with
  | none => none
  | some holding =>
    match b.backend.release env id holding.os with
    | .ok _ => none
    | .error e => some e

/-- What the system or the store of the handlers has to say against an operation. -/
def objection? (b : Bridge H) : Operation H → Option Error
  | .register env id chord =>
    match b.backend.register env id chord with
    | .ok _ => none
    | .error e => some e
  | .bind refusal id _ => refusal.map (.slotAllocation id)
  | .unbind _ => none
  | .unregister env id => b.releaseObjection? env id
  | .unregisterHandle env h => b.releaseObjection? env h.id

theorem isForeign_of_releaseObjection? {env : Conditions} {id : HotkeyId} {e : Error}
    (objected : b.releaseObjection? env id = some e) : e.isForeign = true := by
  unfold releaseObjection? at objected
  split at objected
  · cases objected
  · split at objected
    · cases objected
    · cases objected
      exact Backend.isForeign_of_release ‹_›

/-- Objections come from the system or the store, never from the bridge. -/
theorem isForeign_of_objection? {op : Operation H} {e : Error}
    (objected : b.objection? op = some e) : e.isForeign = true := by
  cases op with
  | register env id chord =>
    simp only [objection?] at objected
    split at objected
    · cases objected
    · cases objected
      exact Backend.isForeign_of_register ‹_›
  | bind refusal id handler =>
    obtain ⟨reason, -, rfl⟩ := Option.map_eq_some_iff.mp objected
    rfl
  | unbind id => cases objected
  | unregister env id => exact isForeign_of_releaseObjection? objected
  | unregisterHandle env h => exact isForeign_of_releaseObjection? objected

/-- The tables have a life for an identifier. A slot without an entry is no life. -/
inductive Lives (b : Bridge H) (id : HotkeyId) : Life H → Prop
  | unregistered (entry : b.handles.live.get? id = none) (slot : b.slots.get? id = none) :
    Lives b id .unregistered
  | registered {holding : Holding} (entry : b.handles.live.get? id = some holding)
      (slot : b.slots.get? id = none) :
    Lives b id (.registered ⟨id, holding.serial⟩ holding.chord)
  | bound {holding : Holding} {c : Cell H} (entry : b.handles.live.get? id = some holding)
      (slot : b.slots.get? id = some c) :
    Lives b id (.bound ⟨id, holding.serial⟩ holding.chord c.handler)

/-- Each identifier of a paired bridge is in one of the three phases of a life. -/
theorem Paired.lives (paired : b.Paired) (id : HotkeyId) : b.Lives id (b.life id) := by
  unfold life
  cases entry : b.handles.live.get? id with
  | none =>
    refine .unregistered entry (Option.eq_none_iff_forall_ne_some.mpr ?_)
    intro c slot
    obtain ⟨holding, live⟩ := isRegistered_iff.mp (paired id (isBound_iff.mpr ⟨c, slot⟩))
    cases entry.symm.trans live
  | some holding =>
    cases slot : b.slots.get? id with
    | none => exact .registered entry slot
    | some c => exact .bound entry slot

namespace Lives

variable {id other : HotkeyId} {life : Life H}

/-- A life is unique, as the tables decide it. -/
theorem life_eq (lives : b.Lives id life) : b.life id = life := by
  cases lives with
  | unregistered entry slot => simp only [Bridge.life, entry]
  | registered entry slot => simp only [Bridge.life, entry, slot]
  | bound entry slot => simp only [Bridge.life, entry, slot]

theorem isRegistered (lives : b.Lives id life) :
    b.isRegistered id = life.phase.isRegistered := by
  obtain ⟨entry, -⟩ | ⟨entry, -⟩ | ⟨entry, -⟩ := lives <;> exact congrArg Option.isSome entry

theorem isBound (lives : b.Lives id life) : b.isBound id = life.phase.isBound := by
  obtain ⟨-, slot⟩ | ⟨-, slot⟩ | ⟨-, slot⟩ := lives <;> exact congrArg Option.isSome slot

theorem phase (lives : b.Lives id life) : b.phase id = .done life.phase := by
  rw [Bridge.phase, lives.isRegistered, lives.isBound]
  cases life <;> rfl

theorem handle? (lives : b.Lives id life) : b.handle? id = life.handle? := by
  obtain ⟨entry, -⟩ | ⟨entry, -⟩ | ⟨entry, -⟩ := lives <;> exact congrArg (Option.map _) entry

theorem chord? (lives : b.Lives id life) : b.chord? id = life.chord? := by
  obtain ⟨entry, -⟩ | ⟨entry, -⟩ | ⟨entry, -⟩ := lives <;> exact congrArg (Option.map _) entry

theorem handler? (lives : b.Lives id life) : b.handler? id = life.handler? := by
  obtain ⟨-, slot⟩ | ⟨-, slot⟩ | ⟨-, slot⟩ := lives <;> exact congrArg (Option.map _) slot

/-- What the tables hold for an identifier is all that counts. -/
theorem congr (lives : b.Lives id life)
    (entry : b'.handles.live.get? id = b.handles.live.get? id)
    (slot : b'.slots.get? id = b.slots.get? id) : b'.Lives id life := by
  cases lives with
  | unregistered entry' slot' => exact .unregistered (entry.trans entry') (slot.trans slot')
  | registered entry' slot' => exact .registered (entry.trans entry') (slot.trans slot')
  | bound entry' slot' => exact .bound (entry.trans entry') (slot.trans slot')

/-! ### Changes to the identifier -/

/-- An identifier is registered with a new handle. -/
theorem enroll (lives : b.Lives id .unregistered) (chord : Chord) (os : OsHandle)
    (backend : Backend) :
    (b.enroll id chord os backend).Lives id (.registered ⟨id, b.handles.nextSerial⟩ chord) := by
  cases lives with
  | unregistered entry slot => exact .registered (b.enroll_get?_self id chord os backend) slot

/-- A registered identifier gets a handler. -/
theorem fill {h : Handle} {chord : Chord} (lives : b.Lives id (.registered h chord))
    (handler : H) : (b.fill id handler).Lives id (.bound h chord handler) := by
  cases lives with
  | registered entry slot =>
    have filled : (b.fill id handler).slots.get? id = some ⟨b.nextToken, id, handler⟩ := by
      simp [fill_eq, Table.get?_insert]
    refine .bound ?_ filled
    exact entry

theorem discard (lives : b.Lives id life) (other : HotkeyId) (handler : H) :
    (b.discard other handler).Lives id life :=
  lives.congr (by rw [discard_handles]) (by rw [discard_slots])

/-- A bound identifier loses its handler and stays registered. -/
theorem clearSlot {h : Handle} {chord : Chord} {handler : H}
    (lives : b.Lives id (.bound h chord handler)) :
    (b.clearSlot id).Lives id (.registered h chord) := by
  cases lives with
  | bound entry slot =>
    refine .registered ?_ ?_
    · rw [clearSlot_handles]
      exact entry
    · simp [Table.get?_erase]

/-- An identifier that is given up has neither entry nor slot. -/
theorem withdraw (b : Bridge H) (id : HotkeyId) (backend : Backend) :
    (b.withdraw id backend).Lives id .unregistered := by
  refine .unregistered ?_ ?_ <;> simp [Table.get?_erase]

/-! ### Changes to another identifier -/

theorem enroll_other (lives : b.Lives other life) (different : other ≠ id) (chord : Chord)
    (os : OsHandle) (backend : Backend) : (b.enroll id chord os backend).Lives other life :=
  lives.congr (by simp [Bridge.enroll, Table.get?_insert, different]) rfl

theorem fill_other (lives : b.Lives other life) (different : other ≠ id) (handler : H) :
    (b.fill id handler).Lives other life :=
  lives.congr rfl (by simp [fill_eq, Table.get?_insert, different])

theorem clearSlot_other (lives : b.Lives other life) (different : other ≠ id) :
    (b.clearSlot id).Lives other life :=
  lives.congr (by simp) (by simp [Table.get?_erase, different])

theorem withdraw_other (lives : b.Lives other life) (different : other ≠ id) (backend : Backend) :
    (b.withdraw id backend).Lives other life :=
  lives.congr (by simp [Table.get?_erase, different]) (by simp [Table.get?_erase, different])

end Lives

/-! ## Steps -/

/-- The step of a life that an operation of a bridge is to make. -/
def next (b : Bridge H) (op : Operation H) (life : Life H) : Outcome Answer × Life H :=
  life.step b.strict ⟨op.id, b.handles.nextSerial⟩ (b.objection? op) op

/-- The bridge makes the step. -/
def Follows (b : Bridge H) (op : Operation H) (life : Life H) : Prop :=
  (b.perform op).1 = (b.next op life).1 ∧ (b.perform op).2.Lives op.id (b.next op life).2

theorem report_doubleRelease (b : Bridge H) (id : HotkeyId) :
    (b.report (.doubleRelease id) : Outcome Unit).map (fun _ => Answer.unit) =
      Life.mistake b.strict (.doubleRelease id) := by
  unfold report Life.mistake
  cases b.strict <;> rfl

/-- A release that the system is asked for ends the life of the identifier, whatever the system
answers. -/
theorem released {id : HotkeyId} {holding : Holding} (env : Conditions)
    (entry : b.handles.live.get? id = some holding) :
    let r : Outcome Unit × Bridge H :=
      match b.backend.release env id holding.os with
      | .ok backend => (.done (), b.withdraw id backend)
      | .error e => (.failed e, b.withdraw id b.backend)
    r.1.map (fun _ => Answer.unit) = Life.concluded (b.releaseObjection? env id) .unit ∧
      r.2.Lives id .unregistered := by
  simp only [releaseObjection?, entry]
  cases b.backend.release env id holding.os <;> exact ⟨rfl, .withdraw ..⟩

namespace Paired

variable {id : HotkeyId} {life : Life H}

theorem follows_register (paired : b.Paired) (env : Conditions) (chord : Chord)
    (lives : b.Lives id life) : b.Follows (.register env id chord) life := by
  simp only [Follows, perform, Operation.move, Operation.id, Bridge.take, answer,
    paired.register_eq, lives.isRegistered]
  cases life with
  | unregistered =>
    simp only [next, Life.step, objection?, Life.phase, Phase.isRegistered]
    cases b.backend.register env id chord with
    | error e => exact ⟨rfl, lives⟩
    | ok granted => exact ⟨rfl, lives.enroll chord granted.1 granted.2⟩
  | registered h chord => exact ⟨rfl, lives⟩
  | bound h chord handler => exact ⟨rfl, lives⟩

theorem follows_bind (paired : b.Paired) (refusal : Option String) (handler : H)
    (lives : b.Lives id life) : b.Follows (.bind refusal id handler) life := by
  simp only [Follows, perform, Operation.move, Operation.id, Bridge.take, answer,
    paired.bind_eq, lives.isRegistered, lives.isBound]
  cases refusal with
  | some reason => exact ⟨rfl, lives⟩
  | none =>
    cases life with
    | unregistered => exact ⟨rfl, lives.discard id handler⟩
    | registered h chord => exact ⟨rfl, lives.fill handler⟩
    | bound h chord old => exact ⟨rfl, lives.discard id handler⟩

theorem follows_unbind (paired : b.Paired) (lives : b.Lives id life) :
    b.Follows (.unbind id) life := by
  simp only [Follows, perform, Operation.move, Operation.id, Bridge.take, answer,
    paired.unbind_eq, lives.isRegistered, lives.isBound]
  cases life with
  | unregistered => exact ⟨rfl, lives⟩
  | registered h chord => exact ⟨b.report_doubleRelease id, lives⟩
  | bound h chord handler => exact ⟨rfl, lives.clearSlot⟩

theorem follows_unregister (paired : b.Paired) (env : Conditions) (lives : b.Lives id life) :
    b.Follows (.unregister env id) life := by
  simp only [Follows, perform, Operation.move, Operation.id, Bridge.take, answer,
    paired.unregister_eq]
  cases lives with
  | unregistered entry slot =>
    simp only [entry]
    exact ⟨rfl, .unregistered entry slot⟩
  | registered entry slot =>
    simp only [entry]
    exact released env entry
  | bound entry slot =>
    simp only [entry]
    exact released env entry

theorem follows_unregisterHandle (paired : b.Paired) (env : Conditions) (h : Handle)
    (lives : b.Lives h.id life) : b.Follows (.unregisterHandle env h) life := by
  simp only [Follows, perform, Operation.move, Operation.id, Bridge.take, answer,
    paired.unregisterHandle_eq, next, Life.step, ← lives.handle?]
  cases entry : b.handles.live.get? h.id with
  | none =>
    have stale : b.handle? h.id = none := congrArg (Option.map _) entry
    simp only [stale]
    exact ⟨b.report_doubleRelease h.id, lives⟩
  | some holding =>
    have current : b.handle? h.id = some h ↔ holding.serial = h.serial := by
      obtain ⟨id, serial⟩ := h
      simp [handle?, Handles.handle?, entry]
    simp only [current]
    split
    · exact released env entry
    · exact ⟨b.report_doubleRelease h.id, lives⟩

/-- Every operation makes the step that the life of its identifier allows. -/
theorem follows (paired : b.Paired) (op : Operation H) : b.Follows op (b.life op.id) := by
  cases op with
  | register env id chord => exact paired.follows_register env chord (paired.lives id)
  | bind refusal id handler => exact paired.follows_bind refusal handler (paired.lives id)
  | unbind id => exact paired.follows_unbind (paired.lives id)
  | unregister env id => exact paired.follows_unregister env (paired.lives id)
  | unregisterHandle env h => exact paired.follows_unregisterHandle env h (paired.lives h.id)

/-- What is done to one identifier does not touch the life of another one. -/
theorem perform_other (paired : b.Paired) {op : Operation H} (different : id ≠ op.id)
    (lives : b.Lives id life) : (b.perform op).2.Lives id life := by
  have effect := paired.effect op
  generalize b.perform op = r at effect ⊢
  cases effect with
  | rejected cause => exact lives
  | discarded cause => exact lives.discard _ _
  | enrolled => exact lives.enroll_other different _ _ _
  | filled => exact lives.fill_other different _
  | cleared => exact lives.clearSlot_other different
  | withdrawn => exact lives.withdraw_other different _
  | refused releases entry answer => exact lives.withdraw_other different _

end Paired

/-- In every state that a bridge can reach, what an operation comes to and what it makes of its
identifier is a step of the life of this identifier: nothing else counts but the strictness of the
bridge and what the system and the store of the handlers say. An operation that succeeds makes an
allowed transition to its own phase, and for all other identifiers nothing changes. -/
theorem life_run (backend : Backend) (strict : Bool) (moves : List (Move H))
    (op : Operation H) :
    let b := (new backend strict).run moves
    let after := (b.perform op).2
    (∀ id, b.phase id = .done (b.life id).phase ∧ b.handle? id = (b.life id).handle? ∧
      b.chord? id = (b.life id).chord? ∧ b.handler? id = (b.life id).handler?) ∧
    ((b.perform op).1, after.life op.id) =
      (b.life op.id).step strict ⟨op.id, b.handles.nextSerial⟩ (b.objection? op) op ∧
    (∀ e, b.objection? op = some e → e.isForeign = true) ∧
    (∀ a, (b.perform op).1 = .done a →
      (b.life op.id).phase.allows op.target = true ∧ after.phase op.id = .done op.target) ∧
    ∀ other, other ≠ op.id →
      after.phase other = b.phase other ∧ after.handle? other = b.handle? other ∧
      after.chord? other = b.chord? other ∧ after.handler? other = b.handler? other := by
  intro b after
  have paired : b.Paired := (new_paired backend strict).run moves
  have strictness : b.strict = strict := new_strict_run backend strict moves
  obtain ⟨outcome, lives⟩ := paired.follows op
  rw [next, strictness] at outcome lives
  refine ⟨?_, ?_, fun _ => isForeign_of_objection?, ?_, ?_⟩
  · intro id
    have lives := paired.lives id
    exact ⟨lives.phase, lives.handle?, lives.chord?, lives.handler?⟩
  · rw [outcome, lives.life_eq]
  · intro a done
    obtain ⟨allowed, phase⟩ := Life.step_of_done (outcome.symm.trans done)
    exact ⟨allowed, by rw [lives.phase, phase]⟩
  · intro other different
    have before := paired.lives other
    have kept := paired.perform_other different before
    exact ⟨kept.phase.trans before.phase.symm, kept.handle?.trans before.handle?.symm,
      kept.chord?.trans before.chord?.symm, kept.handler?.trans before.handler?.symm⟩

end Hotkeys.Bridge
