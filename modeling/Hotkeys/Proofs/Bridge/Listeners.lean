import Hotkeys.Proofs.Bridge.Run

/-!
# The operations of a bridge do not look at its listeners

An operation gives the same answer whatever listeners a bridge has, does the same to everything
else, and leaves the listeners alone.
-/

namespace Hotkeys.Bridge

variable {H α : Type}

/-- The bridge with other listeners. -/
def tune (b : Bridge H) (l : Listeners) : Bridge H := { b with listeners := l }

@[simp] theorem tune_listeners (b : Bridge H) (l : Listeners) : (b.tune l).listeners = l := rfl

@[simp] theorem tune_self (b : Bridge H) : b.tune b.listeners = b := rfl

/-- An operation that does not look at the listeners. -/
def Deaf (f : Bridge H → α × Bridge H) : Prop :=
  ∀ b l, f (b.tune l) = ((f b).1, (f b).2.tune l)

theorem reclaim_tune (b : Bridge H) (l : Listeners) (c : Cell H) :
    (b.tune l).reclaim c = (b.reclaim c).tune l := by
  have same : (b.tune l).holds c = b.holds c := rfl
  unfold reclaim
  rw [same]
  split <;> rfl

theorem foldl_reclaim_tune (cells : List (Cell H)) (b : Bridge H) (l : Listeners) :
    cells.foldl reclaim (b.tune l) = (cells.foldl reclaim b).tune l := by
  induction cells generalizing b with
  | nil => rfl
  | cons c rest ih => rw [List.foldl_cons, List.foldl_cons, reclaim_tune, ih]

theorem clearSlot_tune (b : Bridge H) (l : Listeners) (id : HotkeyId) :
    (b.tune l).clearSlot id = (b.clearSlot id).tune l := by
  have same : (b.tune l).slots.get? id = b.slots.get? id := rfl
  unfold clearSlot
  rw [same]
  cases b.slots.get? id with
  | none => rfl
  | some c => exact reclaim_tune { b with slots := b.slots.erase id } l c

theorem leave_tune (b : Bridge H) (l : Listeners) : (b.tune l).leave = b.leave.tune l := by
  have same : (b.tune l).running = b.running := rfl
  unfold leave
  rw [same]
  match b.running with
  | [] => rfl
  | none :: rest => rfl
  | some c :: rest => exact reclaim_tune { b with running := rest } l c

/-- What does not look at the listeners inside a phase check does not look at them around it. -/
theorem withPhase_tune {next : Bridge H → Phase → Outcome α × Bridge H}
    (deaf : ∀ p, Deaf fun b => next b p) (id : HotkeyId) :
    Deaf fun b => b.withPhase id (next b) := by
  intro b l
  have same : (b.tune l).phase id = b.phase id := rfl
  simp only [withPhase, same]
  cases b.phase id with
  | done p => exact deaf p b l
  | failed e => rfl
  | aborted e => rfl

theorem deaf_register (env : Conditions) (id : HotkeyId) (chord : Chord) :
    Deaf fun b : Bridge H => b.register env id chord := by
  refine withPhase_tune (fun p b l => ?_) id
  simp only [tune]
  split
  · rfl
  · split
    · rfl
    · split <;> rfl

theorem deaf_bind (refusal : Option String) (id : HotkeyId) (handler : H) :
    Deaf fun b : Bridge H => b.bind refusal id handler := by
  intro b l
  cases refusal with
  | some reason => rfl
  | none =>
    have phase : ((b.tune l).store id handler).2.phase id = (b.store id handler).2.phase id := rfl
    have reclaimed := reclaim_tune (b.store id handler).2 l (b.store id handler).1
    simp only [bind, phase]
    split
    · rfl
    all_goals exact congrArg (Prod.mk _) reclaimed

theorem deaf_unbind (id : HotkeyId) : Deaf fun b : Bridge H => b.unbind id := by
  refine withPhase_tune (fun p b l => ?_) id
  cases p with
  | unregistered => rfl
  | registered => rfl
  | bound =>
    dsimp only
    split
    · rfl
    · exact congrArg (Prod.mk _) (clearSlot_tune b l id)

theorem deaf_unregisterHandle (env : Conditions) (h : Handle) :
    Deaf fun b : Bridge H => b.unregisterHandle env h := by
  refine withPhase_tune (fun p b l => ?_) h.id
  have handles : (b.tune l).handles = b.handles := rfl
  simp only [handles]
  cases b.handles.detach h with
  | error e => rfl
  | ok detached =>
    have slots : (b.tune l).slots = b.slots := rfl
    simp only [slots]
    cases b.slots.get? h.id with
    | none =>
      simp only [tune, Option.elim_none]
      split
      · rfl
      · split <;> rfl
    | some c =>
      have reclaimed := fun handles slots backend =>
        reclaim_tune { b with handles, slots, backend } l c
      simp only [tune, Option.elim_some] at reclaimed ⊢
      split
      · exact congrArg (Prod.mk _) (reclaimed _ _ _)
      · split <;> exact congrArg (Prod.mk _) (reclaimed _ _ _)

theorem deaf_unregister (env : Conditions) (id : HotkeyId) :
    Deaf fun b : Bridge H => b.unregister env id := by
  intro b l
  have handle : (b.tune l).handle? id = b.handle? id := rfl
  simp only [unregister, handle]
  cases b.handle? id with
  | none => rfl
  | some h =>
    simp only [deaf_unregisterHandle env h b l]
    cases b.unregisterHandle env h with
    | mk outcome b₁ =>
      cases outcome with
      | done => rfl
      | aborted e => rfl
      | failed e => cases e <;> rfl

theorem deaf_registerAndBind (env : Conditions) (refusal : Option String) (id : HotkeyId)
    (chord : Chord) (handler : H) :
    Deaf fun b : Bridge H => b.registerAndBind env refusal id chord handler := by
  intro b l
  simp only [registerAndBind, deaf_register env id chord b l]
  cases b.register env id chord with
  | mk outcome b₁ =>
    cases outcome with
    | failed e => rfl
    | aborted e => rfl
    | done h =>
      simp only [deaf_bind refusal id handler b₁ l]
      cases b₁.bind refusal id handler with
      | mk outcome b₂ =>
        cases outcome with
        | done => rfl
        | aborted e => rfl
        | failed e =>
          simp only [deaf_unregisterHandle env h b₂ l]
          cases b₂.unregisterHandle env h with
          | mk outcome b₃ => cases outcome <;> rfl

theorem releaseAll_tune (b : Bridge H) (l : Listeners) (env : Conditions)
    (detached : List Detached) :
    (b.tune l).releaseAll env detached = (b.releaseAll env detached).tune l := by
  rw [releaseAll_eq, releaseAll_eq]
  rfl

theorem deaf_shutdown (env : Conditions) : Deaf fun b : Bridge H => b.shutdown env := by
  intro b l
  refine congrArg (Prod.mk _) ?_
  change b.slots.values.foldl reclaim
    ((tune { b with handles := b.handles.detachAll.2, slots := .empty } l).releaseAll env
      b.handles.detachAll.1) = _
  rw [releaseAll_tune, foldl_reclaim_tune]
  rfl

/-! ## Moves -/

/-- The operations of a bridge, without what makes up a dispatch. -/
def Move.isOperation : Move H → Bool
  | .enter _ | .leave | .listen _ => false
  | _ => true

/-- No operation looks at the listeners. -/
theorem deaf_take {m : Move H} (operation : m.isOperation = true) :
    Deaf fun b : Bridge H => b.take m := by
  intro b l
  cases m with
  | register env id chord => simp only [take, answer, deaf_register env id chord b l]
  | bind refusal id handler => simp only [take, answer, deaf_bind refusal id handler b l]
  | registerAndBind env refusal id chord handler =>
    simp only [take, answer, deaf_registerAndBind env refusal id chord handler b l]
  | unbind id => simp only [take, answer, deaf_unbind id b l]
  | unregister env id => simp only [take, answer, deaf_unregister env id b l]
  | unregisterHandle env h => simp only [take, answer, deaf_unregisterHandle env h b l]
  | shutdown env => simp only [take, deaf_shutdown env b l]
  | enter id => cases operation
  | leave => cases operation
  | listen listeners => cases operation

/-- No operation changes the listeners. -/
theorem take_listeners {m : Move H} (operation : m.isOperation = true) (b : Bridge H) :
    (b.take m).2.listeners = b.listeners :=
  congrArg (fun r => r.2.listeners) (deaf_take operation b b.listeners)

theorem leave_listeners (b : Bridge H) : b.leave.listeners = b.listeners := by rw [leave_eq]

end Hotkeys.Bridge
