import Hotkeys.Proofs.Bridge.Operations
import Hotkeys.Proofs.Bridge.Run
import Mathlib.Logic.Relation

/-!
# What a move can do

`Change` lists all that can happen to a paired bridge. Every move is a few changes in a row, every
change keeps the bridge paired, and so what every change keeps holds along every run. A change is
marked by whether a release may have been refused.
-/

namespace Hotkeys.Bridge

open Relation

variable {H : Type} {b b' : Bridge H} {r : Bool}

/-! ## Refused releases -/

/-- Whether the backend refuses one of the releases, made one after the other. -/
def refusesAny (env : Conditions) : Backend → List Detached → Bool
  | _, [] => false
  | backend, d :: rest =>
    match d.release backend env with
    | .ok backend => refusesAny env backend rest
    | .error _ => true

/-- What the release of an identifier gives back to the system. -/
def detached (b : Bridge H) (id : HotkeyId) : List Detached :=
  (b.handles.live.get? id).toList.map fun holding => ⟨id, holding.os⟩

/-- Whether the backend refuses a release that the move asks for. -/
def refuses (b : Bridge H) : Move H → Bool
  | .registerAndBind env (some _) id chord _ =>
    match b.register env id chord with
    | (.done _, b) => refusesAny env b.backend (b.detached id)
    | _ => false
  | .unregister env id => refusesAny env b.backend (b.detached id)
  | .unregisterHandle env h =>
    b.handles.isLive h && refusesAny env b.backend (b.detached h.id)
  | .shutdown env => refusesAny env b.backend b.handles.detachAll.1
  | _ => false

/-- Whether the backend has refused a release during a run. -/
def refusesIn (b : Bridge H) : List (Move H) → Bool
  | [] => false
  | m :: rest => b.refuses m || (b.take m).2.refusesIn rest

/-! ## Changes -/

inductive Change (r : Bool) : Bridge H → Bridge H → Prop
  | enroll {b : Bridge H} {env : Conditions} {id : HotkeyId} {chord : Chord} {os : OsHandle}
      {backend : Backend} (free : b.isRegistered id = false)
      (accepted : b.backend.register env id chord = .ok (os, backend)) :
      Change r b (b.enroll id chord os backend)
  | fill {b : Bridge H} {id : HotkeyId} {handler : H} (registered : b.isRegistered id = true)
      (unbound : b.isBound id = false) : Change r b (b.fill id handler)
  | discard {b : Bridge H} {id : HotkeyId} {handler : H} : Change r b (b.discard id handler)
  | clearSlot {b : Bridge H} {id : HotkeyId} : Change r b (b.clearSlot id)
  | withdraw {b : Bridge H} {env : Conditions} {id : HotkeyId} {holding : Holding}
      {backend : Backend} (live : b.handles.live.get? id = some holding)
      (released : b.backend.release env id holding.os = .ok backend) :
      Change r b (b.withdraw id backend)
  | abandon {b : Bridge H} {id : HotkeyId} (allowed : r = true) :
      Change r b (b.withdraw id b.backend)
  | shutdown {b : Bridge H} {env : Conditions}
      (allowed : refusesAny env b.backend b.handles.detachAll.1 = true → r = true) :
      Change r b (b.shutdown env).2
  | enter {b : Bridge H} {id : HotkeyId} (registered : b.isRegistered id = true) :
      Change r b { b with running := b.slots.get? id :: b.running }
  | leave {b : Bridge H} : Change r b b.leave
  | listen {b : Bridge H} {listeners : Listeners} : Change r b { b with listeners }

theorem Change.mono {r' : Bool} (change : Change r b b') (allows : r = true → r' = true) :
    Change r' b b' := by
  cases change with
  | enroll free accepted => exact .enroll free accepted
  | fill registered unbound => exact .fill registered unbound
  | discard => exact .discard
  | clearSlot => exact .clearSlot
  | withdraw live released => exact .withdraw live released
  | abandon allowed => exact .abandon (allows allowed)
  | shutdown allowed => exact .shutdown fun refused => allows (allowed refused)
  | enter registered => exact .enter registered
  | leave => exact .leave
  | listen => exact .listen

/-- No change leaves a slot without an entry. -/
theorem Change.paired (change : Change r b b') (paired : b.Paired) : b'.Paired := by
  cases change with
  | enroll free accepted => exact paired.enroll _ _ _ _
  | fill registered unbound =>
    intro other bound
    obtain ⟨c, held⟩ := isBound_iff.mp bound
    obtain ⟨rfl, -⟩ | ⟨-, held⟩ := Table.get?_insert_eq_some_iff.mp held
    · exact registered
    · exact paired other (isBound_iff.mpr ⟨c, held⟩)
  | discard =>
    rw [discard_eq]
    exact paired
  | clearSlot =>
    rw [clearSlot_eq]
    refine paired.of_subset ?_ fun _ holding live => ⟨holding, live⟩
    intro other c held
    exact ⟨c, (Table.get?_erase_eq_some_iff.mp held).2⟩
  | withdraw live released => exact paired.withdraw _ _
  | abandon allowed => exact paired.withdraw _ _
  | shutdown allowed =>
    rw [shutdown_eq]
    intro other bound
    cases bound
  | enter registered => exact paired
  | leave =>
    rw [leave_eq]
    exact paired
  | listen => exact paired

/-- Only the owner of a bridge lets it go, and a bridge stays as strict as it is. -/
theorem Change.settings (change : Change r b b') : b'.held = b.held ∧ b'.strict = b.strict := by
  cases change with
  | discard =>
    rw [discard_eq]
    exact ⟨rfl, rfl⟩
  | clearSlot =>
    rw [clearSlot_eq]
    exact ⟨rfl, rfl⟩
  | withdraw live released =>
    rw [withdraw_eq]
    exact ⟨rfl, rfl⟩
  | abandon allowed =>
    rw [withdraw_eq]
    exact ⟨rfl, rfl⟩
  | shutdown allowed =>
    rw [shutdown_eq]
    exact ⟨rfl, rfl⟩
  | leave =>
    rw [leave_eq]
    exact ⟨rfl, rfl⟩
  | _ => exact ⟨rfl, rfl⟩

/-- A release of a live identifier: its entry and its slot go, whatever the backend answers. -/
theorem change_of_release (env : Conditions) {id : HotkeyId} {holding : Holding}
    (live : b.handles.live.get? id = some holding) :
    Change (refusesAny env b.backend (b.detached id)) b
      (b.withdraw id (match b.backend.release env id holding.os with
        | .ok backend => backend
        | .error _ => b.backend)) := by
  cases released : b.backend.release env id holding.os with
  | ok backend => exact .withdraw live released
  | error e => exact .abandon (by simp [detached, live, refusesAny, Detached.release, released])

theorem Change.paired_of_changes (changes : ReflTransGen (Change r) b b') (paired : b.Paired) :
    b'.Paired := by
  induction changes with
  | refl => exact paired
  | tail _ change ih => exact change.paired ih

theorem isLive_eq {h : Handle} {holding : Holding}
    (live : b.handles.live.get? h.id = some holding) :
    b.handles.isLive h = decide (holding.serial = h.serial) := by
  obtain ⟨id, serial⟩ := h
  rw [Bool.eq_iff_iff]
  simp [Handles.isLive, Handles.handle?, live]

/-- Every move is made of changes, and one that meets no refusal abandons nothing. -/
theorem Paired.take_changes (paired : b.Paired) (m : Move H) :
    ReflTransGen (Change (b.refuses m)) b (b.take m).2 := by
  cases m with
  | register env id chord =>
    simp only [take, answer, paired.register_eq]
    split
    · exact .refl
    · split
      · exact .refl
      · exact .single (.enroll (by simpa using ‹¬ b.isRegistered id = true›) ‹_›)
  | bind refusal id handler =>
    simp only [take, answer, paired.bind_eq]
    split
    · exact .refl
    · split
      · exact .single .discard
      · split
        · exact .single (.fill ‹_› (by simpa using ‹¬ b.isBound id = true›))
        · exact .single .discard
  | registerAndBind env refusal id chord handler =>
    have register := paired.register_eq env id chord
    simp only [take, answer, paired.registerAndBind_eq]
    split
    · exact .refl
    · rename_i free
      rw [if_neg free] at register
      cases accepted : b.backend.register env id chord with
      | error e => exact .refl
      | ok granted =>
        obtain ⟨os, backend⟩ := granted
        have enrolled : Change (b.refuses (.registerAndBind env refusal id chord handler)) b
          (b.enroll id chord os backend) := .enroll (by simpa using free) accepted
        have unbound : (b.enroll id chord os backend).isBound id = false :=
          Bool.eq_false_iff.mpr fun bound => free (paired id bound)
        refine .head enrolled (.single ?_)
        cases refusal with
        | none => exact .fill (b.enroll_isRegistered id chord os backend) unbound
        | some reason =>
          simp only [refuses, register, accepted]
          exact change_of_release env (b.enroll_get?_self id chord os backend)
  | unbind id =>
    simp only [take, answer, paired.unbind_eq]
    split
    · exact .single .clearSlot
    · split <;> exact .refl
  | unregister env id =>
    simp only [take, answer, paired.unregister_eq]
    cases live : b.handles.live.get? id with
    | none => exact .refl
    | some holding =>
      have change := change_of_release env live
      dsimp only [refuses]
      cases released : b.backend.release env id holding.os <;>
        exact .single (by simpa only [released] using change)
  | unregisterHandle env h =>
    simp only [take, answer, paired.unregisterHandle_eq]
    cases live : b.handles.live.get? h.id with
    | none => exact .refl
    | some holding =>
      have change := change_of_release env live
      simp only [refuses, isLive_eq live]
      by_cases current : holding.serial = h.serial
      · simp only [current, decide_true, Bool.true_and, if_true]
        cases released : b.backend.release env h.id holding.os <;>
          exact .single (by simpa only [released] using change)
      · simp only [if_neg current]
        exact .refl
  | shutdown env => exact .single (.shutdown id)
  | enter id =>
    simp only [take, enter]
    split
    · exact .single (.enter ‹_›)
    · exact .refl
  | leave => exact .single .leave
  | listen listeners => exact .single .listen

/-! ## Runs -/

theorem new_paired (backend : Backend) (strict : Bool) : (new backend strict : Bridge H).Paired :=
  fun _ bound => nomatch bound

theorem Paired.take (paired : b.Paired) (m : Move H) : (b.take m).2.Paired :=
  Change.paired_of_changes (paired.take_changes m) paired

/-- A run leaves no slot without an entry. -/
theorem Paired.run (paired : b.Paired) (moves : List (Move H)) : (b.run moves).Paired :=
  run_keeps (fun _ m paired => paired.take m) paired moves

/-- What every change keeps is kept along every run. Changes after a refused release need only be
looked at where one has been refused. -/
theorem Paired.run_keeps_of_change {P : Bridge H → Prop}
    (keeps : ∀ {b b' : Bridge H}, b.Paired → P b → Change r b b' → P b')
    (paired : b.Paired) (start : P b) {moves : List (Move H)}
    (allowed : b.refusesIn moves = true → r = true) : P (b.run moves) := by
  induction moves generalizing b with
  | nil => exact start
  | cons m rest ih =>
    simp only [refusesIn, Bool.or_eq_true] at allowed
    have along : ∀ {b₂}, ReflTransGen (Change (b.refuses m)) b b₂ → b₂.Paired ∧ P b₂ := by
      intro b₂ changes
      induction changes with
      | refl => exact ⟨paired, start⟩
      | tail _ change ih =>
        have change := change.mono fun refused => allowed (.inl refused)
        exact ⟨change.paired ih.1, keeps ih.1 ih.2 change⟩
    obtain ⟨paired', kept⟩ := along (paired.take_changes m)
    exact ih paired' kept fun refused => allowed (.inr refused)

theorem new_held_run (backend : Backend) (strict : Bool) (moves : List (Move H)) :
    ((new backend strict).run moves).held = true :=
  (new_paired backend strict).run_keeps_of_change (P := fun b => b.held = true)
    (fun _ held change => change.settings.1.trans held) rfl fun _ => rfl

theorem new_strict_run (backend : Backend) (strict : Bool) (moves : List (Move H)) :
    ((new backend strict).run moves).strict = strict :=
  (new_paired backend strict).run_keeps_of_change (P := fun b => b.strict = strict)
    (fun _ kept change => change.settings.2.trans kept) rfl fun _ => rfl

end Hotkeys.Bridge
