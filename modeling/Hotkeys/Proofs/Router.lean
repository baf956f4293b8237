import Hotkeys.Router

/-!
# The callback that is in force

Callbacks may install other callbacks, take the callback away, hand on further events, and panic in
the midst of it. What they do is a program, and a run of it is watched: it notes the changes of the
callback, and for each event that is dispatched the calls that are made for it.

## Implementation notes

Calls nest, and each one may do so again, so the code of callbacks runs up to a depth; what is
proved holds for all depths. What is noted is out of reach of the programs.
-/

namespace Hotkeys

/-- What a dispatch returns whose callback ends so. -/
def Ending.consumed : Ending Bool → Bool
  | returned b => b
  | panicked _ => false

namespace Router

/-- What a callback does, or whoever has the router. It has a memory that all of them share, and
goes on with what it reads from there and with what a dispatch returns. -/
inductive Program (κ μ : Type)
  | finish (ending : Ending Bool)
  | read (next : μ → Program κ μ)
  | write (memory : μ) (next : Program κ μ)
  | install (callback : κ) (next : Program κ μ)
  | clear (next : Program κ μ)
  | dispatch (e : Event) (next : Bool → Program κ μ)

inductive Change (κ : Type)
  | installed (callback : κ)
  | cleared

/-- A call of a callback, with the callback that is there when it ends. -/
structure Call (κ : Type) where
  callback : κ
  event : Event
  ending : Ending Bool
  left : Option κ

/-- A dispatch that has ended. -/
structure Delivery (κ : Type) where
  event : Event
  /-- The changes before it, the latest first. -/
  before : List (Change κ)
  /-- The calls that have been made for it. Those for other events are not among them. -/
  calls : List (Call κ)
  consumed : Bool
  /-- The changes up to its end. -/
  after : List (Change κ)
  /-- The callback that it leaves. -/
  left : Option κ

/-- A router with the memory of its callbacks and what is noted of it. -/
structure World (κ μ : Type) where
  router : Router κ := {}
  memory : μ
  changes : List (Change κ) := []
  /-- The calls for the innermost event that is under way. -/
  calls : List (Call κ) := []
  deliveries : List (Delivery κ) := []

variable {κ μ : Type}

/-! ## Runs -/

/-- Notes the call of a callback. -/
def noted (call : κ → Event → World κ μ → Ending Bool × World κ μ) (k : κ) (e : Event)
    (w : World κ μ) : Ending Bool × World κ μ :=
  let (ending, w) := call k e w
  (ending, { w with calls := w.calls ++ [⟨k, e, ending, w.router.callback⟩] })

/-- Dispatches an event, and notes it. -/
def World.deliver (w : World κ μ) (call : κ → Event → World κ μ → Ending Bool × World κ μ)
    (e : Event) : Bool × World κ μ :=
  let (consumed, w') := w.router.dispatch (noted call) e { w with calls := [] }
  let delivery := ⟨e, w.changes, w'.calls, consumed, w'.changes, w'.router.callback⟩
  (consumed, { w' with calls := w.calls, deliveries := w'.deliveries ++ [delivery] })

def Program.run (call : κ → Event → World κ μ → Ending Bool × World κ μ) :
    Program κ μ → World κ μ → Ending Bool × World κ μ
  | finish ending, w => (ending, w)
  | read next, w => (next w.memory).run call w
  | write memory next, w => next.run call { w with memory }
  | install k next, w =>
    next.run call
      { w with router := w.router.install k, changes := .installed k :: w.changes }
  | clear next, w =>
    next.run call { w with router := w.router.clear, changes := .cleared :: w.changes }
  | dispatch e next, w =>
    let (consumed, w) := w.deliver call e
    (next consumed).run call w

/-- Calls of callbacks that nest up to a depth. Behind it they panic. -/
def calling (code : κ → Event → Program κ μ) :
    Nat → κ → Event → World κ μ → Ending Bool × World κ μ
  | 0, _, _, w => (.panicked "too deep", w)
  | depth + 1, k, e, w => (code k e).run (calling code depth) w

/-! ## What a run keeps -/

/-- The callback of the latest change, unless this has taken the callback away. -/
def inForce : List (Change κ) → Option κ
  | .installed k :: _ => some k
  | _ => none

/-- What is right about a dispatch: without a callback in force at its beginning nothing is called,
and else this callback, once, with the event. -/
structure Delivery.Lawful (d : Delivery κ) : Prop where
  missed : inForce d.before = none → d.calls = [] ∧ d.consumed = false
  called : ∀ k, inForce d.before = some k → ∃ ending,
    d.calls = [⟨k, d.event, ending, d.left⟩] ∧ d.consumed = ending.consumed
  later : d.before <:+ d.after
  left : d.left = inForce d.after

namespace World

variable {w w' w'' : World κ μ} {call : κ → Event → World κ μ → Ending Bool × World κ μ}

/-- A delivery without a callback is noted and calls nothing. -/
theorem deliver_of_none (empty : w.router.callback = none) (e : Event) :
    w.deliver call e = (false, { w with
      deliveries := w.deliveries ++ [⟨e, w.changes, [], false, w.changes, none⟩] }) := by
  simp only [deliver, Router.dispatch, empty]

theorem deliver_of_some {k : κ} (installed : w.router.callback = some k) {e : Event}
    {ending : Ending Bool} {v : World κ μ} (ended : call k e { w with calls := [] } = (ending, v)) :
    w.deliver call e = (ending.consumed, { v with
      calls := w.calls
      deliveries := v.deliveries ++ [⟨e, w.changes, v.calls ++ [⟨k, e, ending, v.router.callback⟩],
        ending.consumed, v.changes, v.router.callback⟩] }) := by
  cases ending <;> simp only [deliver, Router.dispatch, noted, installed, ended, Ending.consumed]

structure Lawful (w : World κ μ) : Prop where
  callback : w.router.callback = inForce w.changes
  deliveries : ∀ d ∈ w.deliveries, d.Lawful

/-- What the world comes to while no call is made for the event that is under way. -/
structure Keeps (w w' : World κ μ) : Prop where
  lawful : w'.Lawful
  calls : w'.calls = w.calls
  later : w.changes <:+ w'.changes

theorem Keeps.trans (first : w.Keeps w') (second : w'.Keeps w'') : w.Keeps w'' where
  lawful := second.lawful
  calls := second.calls.trans first.calls
  later := first.later.trans second.later

theorem Lawful.add (lawful : w.Lawful) {d : Delivery κ} (new : d.Lawful) :
    ∀ d' ∈ w.deliveries ++ [d], d'.Lawful := by
  intro d' member
  obtain member | member := List.mem_append.mp member
  · exact lawful.deliveries d' member
  · rwa [List.mem_singleton.mp member]

theorem Lawful.write (lawful : w.Lawful) (memory : μ) : w.Keeps { w with memory } :=
  ⟨⟨lawful.callback, lawful.deliveries⟩, rfl, List.suffix_refl _⟩

theorem Lawful.install (lawful : w.Lawful) (k : κ) :
    w.Keeps { w with router := w.router.install k, changes := .installed k :: w.changes } :=
  ⟨⟨rfl, lawful.deliveries⟩, rfl, List.suffix_cons ..⟩

theorem Lawful.clear (lawful : w.Lawful) :
    w.Keeps { w with router := w.router.clear, changes := .cleared :: w.changes } :=
  ⟨⟨rfl, lawful.deliveries⟩, rfl, List.suffix_cons ..⟩

/-- What is asked of the code of callbacks. -/
def Respects (call : κ → Event → World κ μ → Ending Bool × World κ μ) : Prop :=
  ∀ k e (w : World κ μ), w.Lawful → w.Keeps (call k e w).2

/-- A delivery keeps the deliveries lawful if the callbacks do. -/
theorem Lawful.deliver (lawful : w.Lawful) (respects : Respects call) (e : Event) :
    w.Keeps (w.deliver call e).2 := by
  have current := lawful.callback
  cases callback : w.router.callback with
  | none =>
    rw [callback] at current
    have delivery : Delivery.Lawful ⟨e, w.changes, [], false, w.changes, none⟩ := by
      refine ⟨fun _ => ⟨rfl, rfl⟩, fun k some => ?_, List.suffix_refl _, current⟩
      cases current.trans some
    rw [deliver_of_none callback]
    exact ⟨⟨lawful.callback, lawful.add delivery⟩, rfl, List.suffix_refl _⟩
  | some k =>
    rw [callback] at current
    -- the callback begins with no calls noted, and by its end those below it have been put aside
    have kept := respects k e { w with calls := [] } ⟨lawful.callback, lawful.deliveries⟩
    cases ended : call k e { w with calls := [] } with
    | mk ending v =>
      rw [ended] at kept
      have delivery : Delivery.Lawful ⟨e, w.changes,
          v.calls ++ [⟨k, e, ending, v.router.callback⟩], ending.consumed, v.changes,
          v.router.callback⟩ := by
        refine ⟨fun none => ?_, fun k' some => ?_, kept.later, kept.lawful.callback⟩
        · cases current.trans none
        · cases current.trans some
          have none_below : v.calls = [] := kept.calls
          exact ⟨ending, by simp [none_below], rfl⟩
      rw [deliver_of_some callback ended]
      exact ⟨⟨kept.lawful.callback, kept.lawful.add delivery⟩, rfl, kept.later⟩

end World

/-- A program keeps the deliveries lawful if the callbacks do. -/
theorem Program.run_keeps {call : κ → Event → World κ μ → Ending Bool × World κ μ}
    (respects : World.Respects call) (p : Program κ μ) {w : World κ μ} (lawful : w.Lawful) :
    w.Keeps (p.run call w).2 := by
  induction p generalizing w with
  | finish ending => exact ⟨lawful, rfl, List.suffix_refl _⟩
  | read next ih => exact ih w.memory lawful
  | write memory next ih =>
    have step := lawful.write memory
    exact step.trans (ih step.lawful)
  | install k next ih =>
    have step := lawful.install k
    exact step.trans (ih step.lawful)
  | clear next ih =>
    have step := lawful.clear
    exact step.trans (ih step.lawful)
  | dispatch e next ih =>
    have step := lawful.deliver respects e
    exact step.trans (ih _ step.lawful)

/-- Callbacks keep the deliveries lawful, however deep they nest. -/
theorem calling_respects (code : κ → Event → Program κ μ) (depth : Nat) :
    World.Respects (calling code depth) := by
  induction depth with
  | zero => exact fun k e w lawful => ⟨lawful, rfl, List.suffix_refl _⟩
  | succ depth ih => exact fun k e w lawful => (code k e).run_keeps ih lawful

/-- Whatever callbacks do to the router while they are called, and however deep their calls nest,
each event goes to the callback that is in force when its dispatch begins: the one of the latest
installation, unless the callback has been taken away since. It is called once and with this event,
and what it returns is what the dispatch returns. Without a callback in force nothing is called. An
event whose callback panics is not consumed. A dispatch leaves the callback that its own call has
left, whether this has returned or panicked, and that is the one of the latest change. -/
theorem deliveries_run (code : κ → Event → Program κ μ) (depth : Nat) (host : Program κ μ)
    (memory : μ) :
    let w := (host.run (calling code depth) { memory }).2
    (∀ d ∈ w.deliveries,
      (inForce d.before = none → d.calls = [] ∧ d.consumed = false) ∧
      (∀ k, inForce d.before = some k → ∃ ending,
        d.calls = [⟨k, d.event, ending, d.left⟩] ∧ d.consumed = ending.consumed) ∧
      d.before <:+ d.after ∧ d.left = inForce d.after) ∧
    w.router.callback = inForce w.changes := by
  intro w
  have kept := host.run_keeps (calling_respects code depth) (w := { memory }) ⟨rfl, nofun⟩
  refine ⟨fun d member => ?_, kept.lawful.callback⟩
  obtain ⟨missed, called, later, left⟩ := kept.lawful.deliveries d member
  exact ⟨missed, called, later, left⟩

/-- The first callback puts the second one in its place, hands it another event, and panics. -/
example :
    let code : Bool → Event → Program Bool Unit := fun first _ =>
      if first then .install false (.dispatch ⟨2, true⟩ fun _ => .finish (.panicked ""))
      else .finish (.returned true)
    let host : Program Bool Unit :=
      .install true (.dispatch ⟨1, true⟩ fun b => .finish (.returned b))
    let (ending, w) := host.run (calling code 5) { memory := () }
    ending = .returned false ∧ w.router.callback = some false ∧
      w.deliveries.map (fun d => (d.event.id, d.consumed)) = [(2, true), (1, false)] := by
  decide

end Router

end Hotkeys
