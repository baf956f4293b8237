import Hotkeys.Proofs.Bridge.Nested
import Hotkeys.Proofs.Bridge.Step

/-!
# What happens to a bridge, step by step

Handlers make moves and send events in the middle of one another. The trace of all this has each
move, each call of a handler and each dispatch at the moment when it ends, with the bridge before
and after it. Keeping the trace changes nothing.
-/

namespace Hotkeys

/-! ## Stages that go along with each other -/

namespace Bridge

variable {H : Type}

/-- A change of a bridge that makes no difference to the dispatches on it. -/
structure Unnoticed (φ : Bridge H → Bridge H) : Prop where
  listeners : ∀ b, (φ b).listeners = b.listeners
  listen : ∀ b listeners, { φ b with listeners } = φ { b with listeners }
  enter : ∀ b id, (φ b).enter id = (b.enter id).map φ
  current? : ∀ b, (φ b).current? = b.current?
  leave : ∀ b, (φ b).leave = φ b.leave

theorem Unnoticed.id : Unnoticed (id : Bridge H → Bridge H) where
  listeners _ := rfl
  listen _ _ := rfl
  enter _ _ := Option.map_id.symm ▸ rfl
  current? _ := rfl
  leave _ := rfl

end Bridge

namespace Stage

open Bridge

variable {σ τ H : Type} {t : Stage σ H} {u : Stage τ H} {π : σ → τ} {φ : Bridge H → Bridge H}

/-- What happens on one stage happens on another one as well, but for the calls of handlers. -/
structure Follows (t : Stage σ H) (u : Stage τ H) (π : σ → τ) (φ : Bridge H → Bridge H) :
    Prop where
  unnoticed : Unnoticed φ
  bridge : ∀ s, u.bridge (π s) = φ (t.bridge s)
  update : ∀ {f g : Bridge H → Bridge H} {s}, g (φ (t.bridge s)) = φ (f (t.bridge s)) →
    u.update g (π s) = π (t.update f s)
  notice : ∀ i s, u.notice i (π s) = π (t.notice i s)

namespace Follows

theorem offer (follows : t.Follows u π φ) (e : Event) (s : σ) (i : Nat) :
    u.offer e (π s) i = π (t.offer e s i) := by
  have same : (u.bridge (π s)).listeners = (t.bridge s).listeners := by
    rw [follows.bridge, follows.unnoticed.listeners]
  have queued : u.update (fun b => { b with listeners := (b.listeners.offer i e).2 }) (π s) =
      π (t.update (fun b => { b with listeners := (b.listeners.offer i e).2 }) s) :=
    follows.update (by rw [follows.unnoticed.listeners, follows.unnoticed.listen])
  unfold Stage.offer
  dsimp only
  rw [same, queued]
  split
  · exact follows.notice i _
  · rfl

/-- What one stage follows of another it also follows while an event is announced. -/
theorem announce (follows : t.Follows u π φ) (e : Event) (s : σ) :
    u.announce e (π s) = π (t.announce e s) := by
  have same : (u.bridge (π s)).listeners = (t.bridge s).listeners := by
    rw [follows.bridge, follows.unnoticed.listeners]
  unfold Stage.announce
  rw [same]
  clear same
  generalize (t.bridge s).listeners.senders = senders
  induction senders generalizing s with
  | nil => rfl
  | cons i rest ih => rw [List.foldl_cons, List.foldl_cons, follows.offer, ih]

/-- A dispatch on the one stage is a dispatch on the other one if they agree on the call. -/
theorem dispatch (follows : t.Follows u π φ) {e : Event} {s : σ}
    (calls : ∀ b handler, (t.bridge s).enter e.id = some b →
      let s' := t.announce e (t.update (fun _ => b) s)
      u.call handler e (π s') = ((t.call handler e s').1, π (t.call handler e s').2)) :
    u.dispatch e (π s) = ((t.dispatch e s).1, π (t.dispatch e s).2) := by
  unfold Stage.dispatch
  rw [follows.bridge, follows.unnoticed.enter]
  cases entered : (t.bridge s).enter e.id with
  | none => rfl
  | some b =>
    have called := fun handler => calls b handler entered
    have begun : u.update (fun _ => φ b) (π s) = π (t.update (fun _ => b) s) := follows.update rfl
    dsimp only [Option.map_some] at called ⊢
    rw [begun, follows.announce, follows.bridge, follows.unnoticed.current?]
    have ended : ∀ s, u.update leave (π s) = π (t.update leave s) := fun s =>
      follows.update (follows.unnoticed.leave (t.bridge s))
    cases (t.bridge (t.announce e (t.update (fun _ => b) s))).current? with
    | none => exact congrArg _ (ended _)
    | some handler =>
      dsimp only
      rw [called handler, ended]

end Follows

end Stage

/-! ## Traces -/

namespace Bridge

/-- Something that has been done with a bridge, and what it has come to. -/
inductive Incident (H : Type)
  | moved (m : Move H) (outcome : Outcome Answer)
  | called (handler : H) (e : Event) (ending : Ending Bool)
  | dispatched (e : Event) (ending : Ending Bool)

structure Record (H : Type) where
  before : Bridge H
  incident : Incident H
  after : Bridge H

/-- A bridge with what has happened to it, the latest first. -/
structure Traced (H : Type) where
  bridge : Bridge H
  trace : List (Record H) := []

namespace Traced

variable {H : Type}

/-- Notes what has happened to the bridge since it was what it was before. -/
def note (s : Traced H) (before : Bridge H) (incident : Incident H) : Traced H :=
  { s with trace := ⟨before, incident, s.bridge⟩ :: s.trace }

/-- A bridge with its trace, and nothing around it but its handlers. -/
def stage (call : H → Traced H → Ending Bool × Traced H) : Stage (Traced H) H where
  bridge s := s.bridge
  update f s := { s with bridge := f s.bridge }
  notice _ s := s
  call handler e s :=
    let (ending, after) := call handler s
    (ending, after.note s.bridge (.called handler e ending))

def move (m : Move H) (s : Traced H) : Traced H :=
  let (outcome, after) := s.bridge.take m
  { s with bridge := after }.note s.bridge (.moved m outcome)

def send (call : H → Traced H → Ending Bool × Traced H) (e : Event) (s : Traced H) : Traced H :=
  let (ending, after) := (stage call).dispatch e s
  after.note s.bridge (.dispatched e ending)

/-- Does one thing after the other and keeps the trace. -/
def perform (call : H → Traced H → Ending Bool × Traced H) : List (Deed H) → Traced H → Traced H
  | [], s => s
  | .move m _ :: rest, s => perform call rest (s.move m)
  | .dispatch e :: rest, s => perform call rest (s.send call e)

/-- Calls a handler and keeps the trace. -/
def act (conduct : H → Conduct H) : Nat → H → Traced H → Ending Bool × Traced H
  | 0, handler, s => ((conduct handler).ending, s)
  | depth + 1, handler, s =>
    ((conduct handler).ending, perform (act conduct depth) (conduct handler).deeds s)

/-! ## The trace changes nothing -/

section Erase

variable {call : H → Traced H → Ending Bool × Traced H}
  {plain : H → Bridge H → Ending Bool × Bridge H}

theorem stage_follows (call : H → Traced H → Ending Bool × Traced H)
    (plain : H → Bridge H → Ending Bool × Bridge H) :
    (stage call).Follows (Stage.alone plain) (·.bridge) id where
  unnoticed := .id
  bridge _ := rfl
  update same := same
  notice _ _ := rfl

/-- A dispatch does the same to the bridge whether or not it is traced. -/
theorem dispatch_bridge
    (same : ∀ handler s, plain handler s.bridge = ((call handler s).1, (call handler s).2.bridge))
    (e : Event) (s : Traced H) :
    (Stage.alone plain).dispatch e s.bridge =
      (((stage call).dispatch e s).1, ((stage call).dispatch e s).2.bridge) :=
  (stage_follows call plain).dispatch fun _ handler _ => same handler _

theorem perform_bridge
    (same : ∀ handler s, plain handler s.bridge = ((call handler s).1, (call handler s).2.bridge))
    (deeds : List (Deed H)) (s : Traced H) :
    (perform call deeds s).bridge = Stage.perform plain deeds s.bridge := by
  induction deeds generalizing s with
  | nil => rfl
  | cons deed rest ih =>
    cases deed with
    | move m isPlain => exact ih _
    | dispatch e =>
      have sent : (s.send call e).bridge = ((Stage.alone plain).dispatch e s.bridge).2 := by
        rw [dispatch_bridge same]
        rfl
      exact (ih _).trans (congrArg _ sent)

/-- A handler does the same to the bridge whether or not it is traced. -/
theorem act_bridge (conduct : H → Conduct H) (depth : Nat) (handler : H) (s : Traced H) :
    Stage.act conduct depth handler s.bridge =
      ((act conduct depth handler s).1, (act conduct depth handler s).2.bridge) := by
  induction depth generalizing handler s with
  | zero => rfl
  | succ depth ih => exact congrArg _ (perform_bridge ih _ s).symm

/-- Traced handlers nest like any others. -/
theorem act_lawful (conduct : H → Conduct H) (depth : Nat) :
    (stage (act conduct depth)).Lawful where
  bridge_update _ _ := rfl
  notice_nests _ _ := .refl _
  call_nests handler e s := by
    have nests := (Stage.act_lawful conduct depth).call_nests handler e s.bridge
    change s.bridge.Nests (Stage.act conduct depth handler s.bridge).2 at nests
    rw [act_bridge] at nests
    exact nests

end Erase

end Traced

/-! ## What a trace says -/

/-- A bridge that is paired and as strict as it is meant to be. -/
structure Regular {H : Type} (strict : Bool) (b : Bridge H) : Prop where
  paired : b.Paired
  strictness : b.strict = strict

namespace Regular

variable {H : Type} {strict : Bool} {b b' : Bridge H}

theorem new (backend : Backend) (strict : Bool) : Regular strict (new backend strict : Bridge H) :=
  ⟨new_paired backend strict, rfl⟩

theorem run (regular : Regular strict b) {moves : List (Move H)} (reached : b' = b.run moves) :
    Regular strict b' where
  paired := reached ▸ Paired.run regular.paired moves
  strictness := reached ▸
    Paired.run_keeps_of_change (P := fun b => b.strict = strict)
      (fun _ kept change => change.settings.2.trans kept) regular.paired regular.strictness
      fun _ => rfl

theorem take (regular : Regular strict b) (m : Move H) : Regular strict (b.take m).2 :=
  regular.run (show (b.take m).2 = b.run [m] from rfl)

end Regular

/-- What a record can be of a bridge whose handlers keep to their conduct. -/
inductive Record.Faithful {H : Type} (conduct : H → Conduct H) : Record H → Prop
  | moved {b : Bridge H} {m : Move H} :
      Faithful conduct ⟨b, .moved m (b.take m).1, (b.take m).2⟩
  | called {b b' : Bridge H} {handler : H} {e : Event} :
      Faithful conduct ⟨b, .called handler e (conduct handler).ending, b'⟩
  | ignored {b b' : Bridge H} {e : Event} :
      Faithful conduct ⟨b, .dispatched e (.returned false), b'⟩
  | answered {b b' : Bridge H} {e : Event} {c : Cell H} (slot : b.slots.get? e.id = some c) :
      Faithful conduct ⟨b, .dispatched e (conduct c.handler).ending, b'⟩

/-- A dispatch calls no other handler than the one that it has found when it began. -/
theorem exists_cell_of_current? {H : Type} {b : Bridge H} {frame : Option (Cell H)}
    {rest : List (Option (Cell H))} {handler : H} (running : b.running = frame :: rest)
    (found : b.current? = some handler) : ∃ c, frame = some c ∧ c.handler = handler := by
  unfold current? at found
  rw [running] at found
  cases frame with
  | none => cases found
  | some c =>
    dsimp only at found
    split at found
    · exact ⟨c, rfl, Option.some.inj found⟩
    · cases found

namespace Traced

variable {H : Type} {strict : Bool} {conduct : H → Conduct H} {depth : Nat} {s : Traced H}

theorem announce_trace (call : H → Traced H → Ending Bool × Traced H) (e : Event) (s : Traced H) :
    ((stage call).announce e s).trace = s.trace := by
  have offered : ∀ i s, ((stage call).offer e s i).trace = s.trace := by
    intro i s
    unfold Stage.offer
    dsimp only
    split <;> rfl
  unfold Stage.announce
  generalize ((stage call).bridge s).listeners.senders = senders
  induction senders generalizing s with
  | nil => rfl
  | cons i rest ih => exact (ih _).trans (offered i s)

/-- How a handler ends is up to its conduct alone. -/
theorem act_ending (conduct : H → Conduct H) (depth : Nat) (handler : H) (s : Traced H) :
    (act conduct depth handler s).1 = (conduct handler).ending := by
  cases depth <;> rfl

/-- A state with a trace that can lead to it. -/
structure Sound (strict : Bool) (conduct : H → Conduct H) (s : Traced H) : Prop where
  regular : Regular strict s.bridge
  before : ∀ r ∈ s.trace, Regular strict r.before
  after : ∀ r ∈ s.trace, Regular strict r.after
  faithful : ∀ r ∈ s.trace, r.Faithful conduct

/-- Whatever handlers do up to a depth leads from sound states to sound states. -/
def KeepsSound (strict : Bool) (conduct : H → Conduct H) (depth : Nat) : Prop :=
  ∀ handler s, Sound strict conduct s → Sound strict conduct (act conduct depth handler s).2

namespace Sound

/-- A faithful record keeps the trace sound. -/
theorem note (sound : s.Sound strict conduct) {before : Bridge H} {incident : Incident H}
    (regular : Regular strict before)
    (faithful : Record.Faithful conduct ⟨before, incident, s.bridge⟩) :
    (s.note before incident).Sound strict conduct where
  regular := sound.regular
  before := List.forall_mem_cons.mpr ⟨regular, sound.before⟩
  after := List.forall_mem_cons.mpr ⟨sound.regular, sound.after⟩
  faithful := List.forall_mem_cons.mpr ⟨faithful, sound.faithful⟩

theorem bridge (sound : s.Sound strict conduct) {b : Bridge H} (regular : Regular strict b) :
    Sound strict conduct { s with bridge := b } :=
  ⟨regular, sound.before, sound.after, sound.faithful⟩

theorem move (sound : s.Sound strict conduct) (m : Move H) : (s.move m).Sound strict conduct :=
  (sound.bridge (sound.regular.take m)).note sound.regular .moved

theorem leave (sound : s.Sound strict conduct) :
    Sound strict conduct { s with bridge := s.bridge.leave } :=
  sound.bridge (sound.regular.take .leave)

theorem send (keeps : KeepsSound strict conduct depth) (sound : s.Sound strict conduct)
    (e : Event) : (s.send (act conduct depth) e).Sound strict conduct := by
  unfold Traced.send Stage.dispatch
  cases entered : ((stage (act conduct depth)).bridge s).enter e.id with
  | none => exact sound.note sound.regular .ignored
  | some b =>
    obtain ⟨⟨moves, heard⟩, running⟩ := (act_lawful conduct depth).announce_enter entered
    have trace := announce_trace (act conduct depth) e { s with bridge := b }
    change (Stage.announce _ e { s with bridge := b }).bridge = _ at heard
    change (Stage.announce _ e { s with bridge := b }).bridge.running = _ at running
    dsimp only [stage] at heard running trace ⊢
    generalize Stage.announce _ e { s with bridge := b } = s' at heard running trace ⊢
    have regular : Regular strict s'.bridge := sound.regular.run heard
    have sound' : s'.Sound strict conduct :=
      ⟨regular, trace ▸ sound.before, trace ▸ sound.after, trace ▸ sound.faithful⟩
    cases found : s'.bridge.current? with
    | none => exact sound'.leave.note sound.regular .ignored
    | some handler =>
      obtain ⟨c, slot, rfl⟩ := exists_cell_of_current? running found
      dsimp only
      rw [act_ending]
      exact ((keeps c.handler s' sound').note regular .called).leave.note sound.regular
        (.answered slot)

theorem perform (keeps : KeepsSound strict conduct depth) (sound : s.Sound strict conduct)
    (deeds : List (Deed H)) : (perform (act conduct depth) deeds s).Sound strict conduct := by
  induction deeds generalizing s with
  | nil => exact sound
  | cons deed rest ih =>
    cases deed with
    | move m isPlain => exact ih (sound.move m)
    | dispatch e => exact ih (sound.send keeps e)

end Sound

/-- Handlers keep the trace sound, however deep they nest. -/
theorem keepsSound (strict : Bool) (conduct : H → Conduct H) (depth : Nat) :
    KeepsSound strict conduct depth := by
  induction depth with
  | zero => exact fun _ _ sound => sound
  | succ depth ih => exact fun _ _ sound => sound.perform ih _

/-- A bridge on which nothing has been done yet, with an empty trace. -/
def new (backend : Backend) (strict : Bool) : Traced H := { bridge := .new backend strict }

theorem new_sound (backend : Backend) (strict : Bool) (conduct : H → Conduct H) :
    (new backend strict).Sound strict conduct :=
  ⟨.new backend strict, List.forall_mem_nil _, List.forall_mem_nil _, List.forall_mem_nil _⟩

end Traced

end Bridge

end Hotkeys
