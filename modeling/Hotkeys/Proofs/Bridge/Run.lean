import Hotkeys.Bridge.Dispatch
import Hotkeys.Proofs.Bridge.Changes
import Mathlib.Tactic.Choose

/-!
# Runs of a bridge

A run is a list of moves, each with what it meets outside: whether the backend and the store of
the handlers let it succeed. A dispatch is two moves, `enter` and `leave`. What its listeners and
its handler do with the bridge stands between them, so a run that stops there shows the bridge in
the middle of its handlers, nested to any depth.

## Implementation notes

Moves need not be nested correctly, and between `enter` and `leave` anything may happen whether or
not a handler is bound. There are thus more runs than there are executions, and what holds of every
run holds of every execution. `Stage.Makes.dispatch` is the other direction: a dispatch that
calls foreign code is a run if the foreign code is one, and `Stage.Course.dispatch` tells its moves.
-/

namespace Hotkeys

def Outcome.map {α β : Type} (f : α → β) : Outcome α → Outcome β
  | done a => done (f a)
  | failed e => failed e
  | aborted e => aborted e

namespace Bridge

variable {H : Type}

/-- One thing that can be done with a bridge. -/
inductive Move (H : Type)
  | register (env : Conditions) (id : HotkeyId) (chord : Chord)
  | bind (refusal : Option String) (id : HotkeyId) (handler : H)
  | registerAndBind (env : Conditions) (refusal : Option String) (id : HotkeyId) (chord : Chord)
      (handler : H)
  | unbind (id : HotkeyId)
  | unregister (env : Conditions) (id : HotkeyId)
  | unregisterHandle (env : Conditions) (h : Handle)
  | shutdown (env : Conditions)
  /-- A dispatch begins. -/
  | enter (id : HotkeyId)
  /-- The innermost dispatch ends. -/
  | leave
  /-- Listeners come, go, read or are sent an event. -/
  | listen (listeners : Listeners)

/-- What a move gives out when it succeeds. -/
inductive Answer
  | unit
  | handle (h : Handle)
  | count (n : Nat)
  deriving DecidableEq, Repr

/-- An operation with its answer as that of a move. -/
def answer {α : Type} (f : α → Answer) (r : Outcome α × Bridge H) : Outcome Answer × Bridge H :=
  (r.1.map f, r.2)

def take (b : Bridge H) : Move H → Outcome Answer × Bridge H
  | .register env id chord => answer .handle (b.register env id chord)
  | .bind refusal id handler => answer (fun _ => .unit) (b.bind refusal id handler)
  | .registerAndBind env refusal id chord handler =>
    answer .handle (b.registerAndBind env refusal id chord handler)
  | .unbind id => answer (fun _ => .unit) (b.unbind id)
  | .unregister env id => answer (fun _ => .unit) (b.unregister env id)
  | .unregisterHandle env h => answer (fun _ => .unit) (b.unregisterHandle env h)
  | .shutdown env => (.done (.count (b.shutdown env).1), (b.shutdown env).2)
  | .enter id => (.done .unit, (b.enter id).getD b)
  | .leave => (.done .unit, b.leave)
  | .listen listeners => (.done .unit, { b with listeners })

/-- The bridge at the end of a run. -/
def run (b : Bridge H) : List (Move H) → Bridge H
  | [] => b
  | m :: rest => (b.take m).2.run rest

/-- The moves of a run with what each of them has come to, the earliest first. -/
def log (b : Bridge H) : List (Move H) → List (Move H × Outcome Answer)
  | [] => []
  | m :: rest => (m, (b.take m).1) :: (b.take m).2.log rest

@[simp] theorem run_nil (b : Bridge H) : b.run [] = b := rfl

@[simp] theorem run_cons (b : Bridge H) (m : Move H) (rest : List (Move H)) :
    b.run (m :: rest) = (b.take m).2.run rest := rfl

/-- A run goes on where an earlier one has ended. -/
theorem run_append (b : Bridge H) (first second : List (Move H)) :
    b.run (first ++ second) = (b.run first).run second := by
  induction first generalizing b with
  | nil => rfl
  | cons m rest ih => exact ih _

theorem log_append (b : Bridge H) (first second : List (Move H)) :
    b.log (first ++ second) = b.log first ++ (b.run first).log second := by
  induction first generalizing b with
  | nil => rfl
  | cons m rest ih => simp [log, ih]

/-- What every move keeps is kept by every run. -/
theorem run_keeps {P : Bridge H → Prop} (keeps : ∀ b m, P b → P (b.take m).2) {b : Bridge H}
    (start : P b) (moves : List (Move H)) : P (b.run moves) := by
  induction moves generalizing b with
  | nil => exact start
  | cons m rest ih => exact ih (keeps b m start)

/-- What code that is called in the middle of a dispatch can make of a bridge: it makes a run, and
every dispatch that it begins has ended when it returns. -/
def Nests (b b' : Bridge H) : Prop := (∃ moves, b' = b.run moves) ∧ b'.running = b.running

theorem Nests.refl (b : Bridge H) : b.Nests b := ⟨⟨[], rfl⟩, rfl⟩

theorem Nests.trans {b₁ b₂ b₃ : Bridge H} (first : b₁.Nests b₂) (second : b₂.Nests b₃) :
    b₁.Nests b₃ := by
  obtain ⟨⟨moves₁, rfl⟩, running₁⟩ := first
  obtain ⟨⟨moves₂, rfl⟩, running₂⟩ := second
  exact ⟨⟨moves₁ ++ moves₂, (run_append ..).symm⟩, running₂.trans running₁⟩

end Bridge

namespace Stage

open Bridge

variable {σ H : Type}

/-- Foreign code that reaches the bridge through its operations alone. -/
structure Lawful (t : Stage σ H) : Prop where
  bridge_update : ∀ f s, t.bridge (t.update f s) = f (t.bridge s)
  notice_nests : ∀ i s, (t.bridge s).Nests (t.bridge (t.notice i s))
  call_nests : ∀ handler e s, (t.bridge s).Nests (t.bridge (t.call handler e s).2)

/-! ## Dispatches that have ended -/

/-- Foreign code that ends every dispatch that it begins. -/
structure Balanced (t : Stage σ H) : Prop where
  bridge_update : ∀ f s, t.bridge (t.update f s) = f (t.bridge s)
  notice_running : ∀ i s, (t.bridge (t.notice i s)).running = (t.bridge s).running
  call_running : ∀ handler e s,
    (t.bridge (t.call handler e s).2).running = (t.bridge s).running

namespace Balanced

variable {t : Stage σ H} {e : Event} {s : σ}

theorem offer (balanced : t.Balanced) (e : Event) (s : σ) (i : Nat) :
    (t.bridge (t.offer e s i)).running = (t.bridge s).running := by
  unfold Stage.offer
  dsimp only
  split
  · rw [balanced.notice_running, balanced.bridge_update]
  · rw [balanced.bridge_update]

theorem announce (balanced : t.Balanced) (e : Event) (s : σ) :
    (t.bridge (t.announce e s)).running = (t.bridge s).running := by
  unfold Stage.announce
  generalize (t.bridge s).listeners.senders = senders
  induction senders generalizing s with
  | nil => rfl
  | cons i rest ih => rw [List.foldl_cons, ih, balanced.offer]

/-- The dispatch that has begun is the innermost one. -/
theorem announce_enter (balanced : t.Balanced) {b : Bridge H}
    (entered : (t.bridge s).enter e.id = some b) :
    (t.bridge (t.announce e (t.update (fun _ => b) s))).running =
      (t.bridge s).slots.get? e.id :: (t.bridge s).running := by
  rw [balanced.announce, balanced.bridge_update]
  obtain ⟨-, rfl⟩ := enter_eq_some_iff.mp entered
  rfl

/-- A dispatch leaves the dispatches around it as they were. -/
theorem dispatch (balanced : t.Balanced) (e : Event) (s : σ) :
    (t.bridge (t.dispatch e s).2).running = (t.bridge s).running := by
  unfold Stage.dispatch
  cases entered : (t.bridge s).enter e.id with
  | none => rfl
  | some b =>
    have begun := balanced.announce_enter entered
    dsimp only
    split
    · rw [balanced.bridge_update, leave_running, begun]
      rfl
    · rw [balanced.bridge_update, leave_running, balanced.call_running, begun]
      rfl

theorem settle (balanced : t.Balanced) (env : Conditions) (s : σ) :
    (t.bridge (t.settle env s)).running = (t.bridge s).running := by
  have disconnected : ∀ (senders : List Nat) (s : σ),
      (t.bridge (senders.foldl (fun s i => t.notice i
        (t.update (fun b => { b with listeners := b.listeners.disconnect i }) s)) s)).running =
      (t.bridge s).running := by
    intro senders
    induction senders with
    | nil => exact fun _ => rfl
    | cons i rest ih =>
      intro s
      rw [List.foldl_cons, ih, balanced.notice_running, balanced.bridge_update]
  unfold Stage.settle close
  split
  · rfl
  · rw [disconnected, balanced.bridge_update, shutdown_running]

/-- The callback of the router leaves the dispatches around it as they were. -/
theorem answer (balanced : t.Balanced) (envs : σ → Conditions) (e : Event) (s : σ) :
    (t.bridge (t.answer envs e s).2).running = (t.bridge s).running := by
  unfold Stage.answer
  split
  · exact (balanced.settle _ _).trans (balanced.dispatch e s)
  · rfl

end Balanced

/-! ## The moves of a dispatch -/

/-- The moves that the foreign code of a stage makes: listeners that notice something, and handlers.
-/
structure Course (σ H : Type) where
  notice : Nat → σ → List (Move H)
  call : H → Event → σ → List (Move H)

namespace Course

variable (c : Course σ H) (t : Stage σ H) (e : Event)

def offer (s : σ) (i : Nat) : List (Move H) :=
  let offered := (t.bridge s).listeners.offer i e
  let s := t.update (fun b => { b with listeners := (b.listeners.offer i e).2 }) s
  .listen offered.2 :: if offered.1 then c.notice i s else []

def announce : List Nat → σ → List (Move H)
  | [], _ => []
  | i :: rest, s => c.offer t e s i ++ announce rest (t.offer e s i)

/-- The moves of a dispatch, from its beginning to its end, with all that foreign code does in
between. -/
def dispatch (s : σ) : List (Move H) :=
  match (t.bridge s).enter e.id with
  | none => []
  | some b =>
    let s := t.update (fun _ => b) s
    let heard := t.announce e s
    .enter e.id :: (c.announce t e (t.bridge s).listeners.senders s ++
      (t.bridge heard).current?.elim [] (c.call · e heard) ++ [.leave])

end Course

/-- The foreign code of a stage makes the moves of the course. -/
structure Makes (t : Stage σ H) (c : Course σ H) : Prop where
  balanced : t.Balanced
  notice_run : ∀ i s, t.bridge (t.notice i s) = (t.bridge s).run (c.notice i s)
  call_run : ∀ handler e s, t.bridge (t.call handler e s).2 = (t.bridge s).run (c.call handler e s)

/-- Foreign code that nests ends every dispatch that it begins. -/
theorem Lawful.balanced {t : Stage σ H} (lawful : t.Lawful) : t.Balanced where
  bridge_update := lawful.bridge_update
  notice_running i s := (lawful.notice_nests i s).2
  call_running handler e s := (lawful.call_nests handler e s).2

/-- Lawful code makes moves that can be named. -/
theorem Lawful.exists_course {t : Stage σ H} (lawful : t.Lawful) : ∃ c, t.Makes c := by
  choose notice noticed using fun i s => (lawful.notice_nests i s).1
  choose call called using fun handler e s => (lawful.call_nests handler e s).1
  exact ⟨⟨notice, call⟩, lawful.balanced, noticed, called⟩

namespace Makes

variable {t : Stage σ H} {c : Course σ H} {e : Event} {s : σ} {b : Bridge H}

theorem offer (makes : t.Makes c) (e : Event) (s : σ) (i : Nat) :
    t.bridge (t.offer e s i) = (t.bridge s).run (c.offer t e s i) := by
  unfold Stage.offer Course.offer
  dsimp only
  split
  · rw [makes.notice_run, makes.balanced.bridge_update, run_cons]
    rfl
  · rw [makes.balanced.bridge_update]
    rfl

/-- An announcement makes the moves of the listeners that it wakes, one after the other. -/
theorem announce (makes : t.Makes c) (e : Event) (s : σ) :
    t.bridge (t.announce e s) =
      (t.bridge s).run (c.announce t e (t.bridge s).listeners.senders s) := by
  unfold Stage.announce
  generalize (t.bridge s).listeners.senders = senders
  induction senders generalizing s with
  | nil => rfl
  | cons i rest ih => rw [List.foldl_cons, ih, Course.announce, run_append, makes.offer]

/-- The bridge at the moment when a dispatch looks at the handler: the event has been announced. -/
theorem announce_enter (makes : t.Makes c) (entered : (t.bridge s).enter e.id = some b) :
    let begun := t.update (fun _ => b) s
    t.bridge (t.announce e begun) = (t.bridge s).run
      (.enter e.id :: c.announce t e (t.bridge begun).listeners.senders begun) := by
  intro begun
  have entry : t.bridge begun = b := makes.balanced.bridge_update _ s
  rw [makes.announce, run_cons]
  simp [take, entered, entry]

/-- A dispatch is a run. -/
theorem dispatch (makes : t.Makes c) (e : Event) (s : σ) :
    t.bridge (t.dispatch e s).2 = (t.bridge s).run (c.dispatch t e s) := by
  unfold Stage.dispatch Course.dispatch
  cases entered : (t.bridge s).enter e.id with
  | none => rfl
  | some b =>
    dsimp only
    rw [← List.cons_append, ← List.cons_append, run_append, run_append,
      ← makes.announce_enter entered]
    split
    · rename_i silent
      rw [silent, makes.balanced.bridge_update]
      rfl
    · rename_i handler current
      rw [current, makes.balanced.bridge_update, makes.call_run]
      rfl

end Makes

namespace Lawful

variable {t : Stage σ H}

/-- The beginning of a dispatch and the announcement are moves, and the cell that the dispatch has
found stays with it. -/
theorem announce_enter (lawful : t.Lawful) {e : Event} {s : σ} {b : Bridge H}
    (entered : (t.bridge s).enter e.id = some b) :
    (∃ moves, t.bridge (t.announce e (t.update (fun _ => b) s)) =
      (t.bridge s).run (.enter e.id :: moves)) ∧
    (t.bridge (t.announce e (t.update (fun _ => b) s))).running =
      (t.bridge s).slots.get? e.id :: (t.bridge s).running := by
  obtain ⟨c, makes⟩ := lawful.exists_course
  exact ⟨⟨_, makes.announce_enter entered⟩, lawful.balanced.announce_enter entered⟩

/-- A dispatch is a run if what it calls is one, so handlers may dispatch again. -/
theorem dispatch_nests (lawful : t.Lawful) (e : Event) (s : σ) :
    (t.bridge s).Nests (t.bridge (t.dispatch e s).2) := by
  obtain ⟨c, makes⟩ := lawful.exists_course
  exact ⟨⟨_, makes.dispatch e s⟩, lawful.balanced.dispatch e s⟩

end Lawful

end Stage

end Hotkeys
