import Hotkeys.Proofs.Bridge.Listeners
import Hotkeys.Proofs.Bridge.Nested
import Hotkeys.Proofs.Listeners.Basic

/-!
# Turns of a bridge with its listeners

Operations, dispatches and the owners of listeners take turns at a bridge. A dispatch to a
registered identifier takes a turn to begin, one for each listener that its event is offered to,
one to look for the handler, and one to end. What the handler does before the end is turns again,
so handlers may dispatch, subscribe and read.

## Implementation notes

A listener that is woken may act at once, while others still wait for the same event. It may use
the bridge and the queues, but it cannot announce another event there. `Announcement` says so, and
`Announced` says that nothing else comes between the beginning of a dispatch and its offers. Apart
from that turns need not be nested correctly, and what holds of all of them holds of every
execution.
-/

namespace Hotkeys

namespace Bridge

variable {H : Type} {b : Bridge H}

inductive Turn (H : Type)
  | move (m : Move H) (operation : m.isOperation = true)
  | listeners (a : Listeners.Act)
  /-- A dispatch begins. -/
  | dispatch (e : Event)
  | offer (i : Nat) (e : Event)
  /-- The innermost dispatch looks for its handler. -/
  | call
  /-- The innermost dispatch ends. -/
  | leave

/-- What a turn comes to. -/
inductive Reply (H : Type)
  | outcome (o : Outcome Answer)
  | read (events : List Event)
  | begun (registered : Bool)
  | offered
  | handler (h : Option H)
  | ended

def play (b : Bridge H) : Turn H → Reply H × Bridge H
  | .move m _ => (.outcome (b.take m).1, (b.take m).2)
  | .listeners a => (.read (b.listeners.act a).1, b.tune (b.listeners.act a).2)
  | .dispatch e => (.begun (b.isRegistered e.id), (b.enter e.id).getD b)
  | .offer i e => (.offered, b.tune (b.listeners.offer i e).2)
  | .call => (.handler b.current?, b)
  | .leave => (.ended, b.leave)

/-- The bridge after some turns. -/
def playAll (b : Bridge H) : List (Turn H) → Bridge H
  | [] => b
  | t :: rest => (b.play t).2.playAll rest

/-- The turns with what each of them has come to. -/
def transcript (b : Bridge H) : List (Turn H) → List (Turn H × Reply H)
  | [] => []
  | t :: rest => (t, (b.play t).1) :: (b.play t).2.transcript rest

theorem playAll_append (b : Bridge H) (first second : List (Turn H)) :
    b.playAll (first ++ second) = (b.playAll first).playAll second := by
  induction first generalizing b with
  | nil => rfl
  | cons t rest ih => exact ih _

/-! ## Announcements -/

/-- Turns that may stand between the offers of an announcement. -/
def Turn.isAside : Turn H → Bool
  | .move .. | .listeners _ => true
  | _ => false

/-- An event is offered to some listeners in their order. Each of them may act when it is woken. -/
inductive Announcement (e : Event) : List Nat → List (Turn H) → Prop
  | nil : Announcement e [] []
  | offer {i : Nat} {rest : List Nat} {asides turns : List (Turn H)}
      (only : ∀ t ∈ asides, t.isAside = true) (others : Announcement e rest turns) :
    Announcement e (i :: rest) (.offer i e :: (asides ++ turns))

/-- Turns in which every dispatch to a registered identifier begins with its announcement, and
nothing else is announced. -/
inductive Announced : Bridge H → List (Turn H) → Prop
  | nil (b : Bridge H) : Announced b []
  | aside {b : Bridge H} {t : Turn H} {rest : List (Turn H)} (aside : t.isAside = true)
      (later : Announced (b.play t).2 rest) : Announced b (t :: rest)
  | ignored {b : Bridge H} {e : Event} {rest : List (Turn H)}
      (free : b.isRegistered e.id = false) (later : Announced b rest) :
    Announced b (.dispatch e :: rest)
  | dispatch {b : Bridge H} {e : Event} {turns rest : List (Turn H)}
      (registered : b.isRegistered e.id = true)
      (announcement : Announcement e b.listeners.senders turns)
      (later : Announced ((b.play (.dispatch e)).2.playAll turns) rest) :
    Announced b (.dispatch e :: (turns ++ rest))
  | call {b : Bridge H} {rest : List (Turn H)} (later : Announced b rest) :
    Announced b (.call :: rest)
  | leave {b : Bridge H} {rest : List (Turn H)} (later : Announced b.leave rest) :
    Announced b (.leave :: rest)

/-- A dispatch to an identifier that is not registered does not even begin. -/
theorem play_dispatch_of_free {e : Event} (free : b.isRegistered e.id = false) :
    b.play (.dispatch e) = (.begun false, b) := by
  simp [play, enter, free]

theorem play_dispatch {e : Event} (registered : b.isRegistered e.id = true) :
    b.play (.dispatch e) =
      (.begun true, { b with running := b.slots.get? e.id :: b.running }) := by
  simp [play, enter, registered]

/-- Turns may follow others if they are legal where these have ended. -/
theorem Announced.append {first second : List (Turn H)} (before : Announced b first)
    (after : Announced (b.playAll first) second) : Announced b (first ++ second) := by
  induction before with
  | nil b => exact after
  | aside aside _ ih => exact .aside aside (ih after)
  | @ignored b e rest free _ ih =>
    refine .ignored free (ih ?_)
    rwa [playAll, play_dispatch_of_free free] at after
  | @dispatch b e turns rest registered announcement _ ih =>
    rw [playAll, playAll_append] at after
    rw [List.cons_append, List.append_assoc]
    exact .dispatch registered announcement (ih after)
  | call _ ih => exact .call (ih after)
  | leave _ ih => exact .leave (ih after)

theorem Announced.asides {asides : List (Turn H)} (only : ∀ t ∈ asides, t.isAside = true)
    (b : Bridge H) : Announced b asides := by
  induction asides generalizing b with
  | nil => exact .nil b
  | cons t rest ih =>
    obtain ⟨first, others⟩ := List.forall_mem_cons.mp only
    exact .aside first (ih others _)

/-- Turns lead from one bridge to the other. -/
def Plays (b b' : Bridge H) : Prop := ∃ turns, b.Announced turns ∧ b' = b.playAll turns

theorem Plays.refl (b : Bridge H) : b.Plays b := ⟨[], .nil b, rfl⟩

theorem Plays.trans {b₁ b₂ b₃ : Bridge H} (first : b₁.Plays b₂) (second : b₂.Plays b₃) :
    b₁.Plays b₃ := by
  obtain ⟨turns₁, announced₁, rfl⟩ := first
  obtain ⟨turns₂, announced₂, rfl⟩ := second
  exact ⟨turns₁ ++ turns₂, announced₁.append announced₂, (playAll_append ..).symm⟩

end Bridge

/-! ## Dispatches -/

namespace Stage

open Bridge

variable {σ H : Type}

/-- Foreign code that takes turns at the bridge. What listeners do when they are woken may stand
inside an announcement. -/
structure Sequential (t : Stage σ H) : Prop where
  bridge_update : ∀ f s, t.bridge (t.update f s) = f (t.bridge s)
  notice_plays : ∀ i s, ∃ asides, (∀ a ∈ asides, Turn.isAside a = true) ∧
    t.bridge (t.notice i s) = (t.bridge s).playAll asides
  call_plays : ∀ handler e s, (t.bridge s).Plays (t.bridge (t.call handler e s).2)

namespace Sequential

variable {t : Stage σ H}

theorem offer (sequential : t.Sequential) (e : Event) (s : σ) (i : Nat) :
    ∃ asides, (∀ a ∈ asides, Turn.isAside a = true) ∧
      t.bridge (t.offer e s i) = (t.bridge s).playAll (.offer i e :: asides) := by
  unfold Stage.offer
  dsimp only
  split
  · obtain ⟨asides, only, noticed⟩ := sequential.notice_plays i
      (t.update (fun b => { b with listeners := (b.listeners.offer i e).2 }) s)
    refine ⟨asides, only, ?_⟩
    rw [noticed, sequential.bridge_update]
    rfl
  · refine ⟨[], List.forall_mem_nil _, ?_⟩
    rw [sequential.bridge_update]
    rfl

/-- Sequential code makes an announcement of an event to the listeners in their order. -/
theorem announce (sequential : t.Sequential) (e : Event) (s : σ) :
    ∃ turns, Announcement e (t.bridge s).listeners.senders turns ∧
      t.bridge (t.announce e s) = (t.bridge s).playAll turns := by
  unfold Stage.announce
  generalize (t.bridge s).listeners.senders = senders
  induction senders generalizing s with
  | nil => exact ⟨[], .nil, rfl⟩
  | cons i rest ih =>
    obtain ⟨asides, only, offered⟩ := sequential.offer e s i
    obtain ⟨turns, others, announced⟩ := ih (t.offer e s i)
    refine ⟨.offer i e :: (asides ++ turns), .offer only others, ?_⟩
    rw [List.foldl_cons, announced, offered, ← playAll_append]
    rfl

/-- A dispatch to a registered identifier begins with its announcement. Then it looks for the
handler, which takes its turns and decides what the dispatch comes to. -/
theorem dispatch (sequential : t.Sequential) {e : Event} {s : σ}
    (registered : (t.bridge s).isRegistered e.id = true) :
    ∃ block inner, Announcement e (t.bridge s).listeners.senders block ∧
      let heard := (t.bridge s).playAll (.dispatch e :: block)
      heard.Announced inner ∧
      t.bridge (t.dispatch e s).2 = heard.playAll (.call :: (inner ++ [.leave])) ∧
      match heard.current? with
      | none => inner = [] ∧ (t.dispatch e s).1 = .returned false
      | some h => ∃ s', t.bridge s' = heard ∧ (t.dispatch e s).1 = (t.call h e s').1 ∧
          t.bridge (t.call h e s').2 = heard.playAll inner := by
  let b : Bridge H :=
    { t.bridge s with running := (t.bridge s).slots.get? e.id :: (t.bridge s).running }
  have entered : (t.bridge s).enter e.id = some b := enter_eq_some_iff.mpr ⟨registered, rfl⟩
  obtain ⟨block, announcement, announced⟩ := sequential.announce e (t.update (fun _ => b) s)
  rw [sequential.bridge_update] at announcement announced
  have heard : t.bridge (t.announce e (t.update (fun _ => b) s)) =
      (t.bridge s).playAll (.dispatch e :: block) := by
    rw [announced, playAll, play_dispatch registered]
  cases handler : ((t.bridge s).playAll (.dispatch e :: block)).current? with
  | none =>
    have ended : t.dispatch e s =
        (.returned false, t.update leave (t.announce e (t.update (fun _ => b) s))) := by
      simp only [Stage.dispatch, entered, heard, handler]
    refine ⟨block, [], announcement, .nil _, ?_, ?_⟩
    · rw [ended, sequential.bridge_update, heard]
      rfl
    · rw [handler]
      exact ⟨rfl, congrArg Prod.fst ended⟩
  | some h =>
    obtain ⟨inner, later, called⟩ :=
      sequential.call_plays h e (t.announce e (t.update (fun _ => b) s))
    rw [heard] at later called
    have ended : t.dispatch e s =
        ((t.call h e (t.announce e (t.update (fun _ => b) s))).1,
          t.update leave (t.call h e (t.announce e (t.update (fun _ => b) s))).2) := by
      simp only [Stage.dispatch, entered, heard, handler]
    refine ⟨block, inner, announcement, later, ?_, ?_⟩
    · rw [ended, sequential.bridge_update, called]
      simp only [playAll, playAll_append]
      rfl
    · rw [handler]
      exact ⟨_, heard, by rw [ended], called⟩

/-- A dispatch to an identifier that is not registered does nothing. -/
theorem dispatch_of_free {e : Event} {s : σ} (free : (t.bridge s).isRegistered e.id = false) :
    t.dispatch e s = (.returned false, s) := by
  simp [Stage.dispatch, enter, free]

/-- A dispatch takes turns, so a handler that dispatches again takes turns as well. -/
theorem dispatch_plays (sequential : t.Sequential) (e : Event) (s : σ) :
    (t.bridge s).Plays (t.bridge (t.dispatch e s).2) := by
  cases registered : (t.bridge s).isRegistered e.id with
  | false =>
    rw [dispatch_of_free registered]
    exact .refl _
  | true =>
    obtain ⟨block, inner, announcement, later, turns, -⟩ := sequential.dispatch registered
    refine ⟨.dispatch e :: (block ++ .call :: (inner ++ [.leave])), ?_, ?_⟩
    · exact .dispatch registered announcement (.call (later.append (.leave (.nil _))))
    · simp only [turns, playAll, playAll_append]

end Sequential

/-! ## Handlers that take turns -/

/-- One thing that a handler does with its bridge and the listeners. -/
inductive Errand (H : Type)
  | aside (t : Turn H) (aside : t.isAside = true)
  /-- A whole dispatch, with all that its handler does. -/
  | dispatch (e : Event)

/-- Runs one errand after the other. -/
def runErrands (call : H → Bridge H → Ending Bool × Bridge H) :
    List (Errand H) → Bridge H → Bridge H
  | [], b => b
  | .aside t _ :: rest, b => runErrands call rest (b.play t).2
  | .dispatch e :: rest, b => runErrands call rest ((alone call).dispatch e b).2

/-- Calls a handler that runs its errands and ends in its own way. Handlers inside handlers run
theirs up to the given depth. -/
def attend (errands : H → List (Errand H)) (ending : H → Ending Bool) :
    Nat → H → Bridge H → Ending Bool × Bridge H
  | 0, handler, b => (ending handler, b)
  | depth + 1, handler, b =>
    (ending handler, runErrands (attend errands ending depth) (errands handler) b)

/-- A bridge whose listeners do nothing is sequential if its handlers take legal turns. -/
theorem alone_sequential {call : H → Bridge H → Ending Bool × Bridge H}
    (plays : ∀ handler (b : Bridge H), b.Plays (call handler b).2) :
    (alone call).Sequential where
  bridge_update _ _ := rfl
  notice_plays _ _ := ⟨[], List.forall_mem_nil _, rfl⟩
  call_plays handler _ b := plays handler b

theorem runErrands_plays {call : H → Bridge H → Ending Bool × Bridge H}
    (plays : ∀ handler (b : Bridge H), b.Plays (call handler b).2) (errands : List (Errand H))
    (b : Bridge H) : b.Plays (runErrands call errands b) := by
  induction errands generalizing b with
  | nil => exact .refl b
  | cons errand rest ih =>
    cases errand with
    | aside t aside => exact Plays.trans ⟨[t], .aside aside (.nil _), rfl⟩ (ih _)
    | dispatch e => exact ((alone_sequential plays).dispatch_plays e b).trans (ih _)

/-- Handlers that run errands take turns, however deep they are nested. -/
theorem attend_sequential (errands : H → List (Errand H)) (ending : H → Ending Bool)
    (depth : Nat) : (alone (attend errands ending depth)).Sequential := by
  refine alone_sequential ?_
  induction depth with
  | zero => exact fun _ b => .refl b
  | succ depth ih => exact fun handler b => runErrands_plays ih (errands handler) b

end Stage

end Hotkeys
