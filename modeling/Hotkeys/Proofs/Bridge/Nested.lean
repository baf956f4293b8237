import Hotkeys.Proofs.Bridge.Step

/-!
# Handlers that use their bridge

A handler may do anything with its bridge, also send events, and then handlers are called in the
middle of it. However deep this goes, all of it is a run of the bridge. So what holds at the end of
every run holds after every dispatch, and `Dispatches.run` is how the results say so.
-/

namespace Hotkeys

namespace Bridge

variable {H : Type}

/-! ## Moves leave the dispatches under way alone -/

/-- Whether a move neither begins nor ends a dispatch. -/
def Move.isPlain : Move H → Bool
  | .enter _ | .leave => false
  | _ => true

@[simp] theorem reclaim_running (b : Bridge H) (c : Cell H) :
    (b.reclaim c).running = b.running := by rw [reclaim_eq]

theorem withPhase_running {α : Type} (b : Bridge H) (id : HotkeyId)
    {next : Phase → Outcome α × Bridge H} (keeps : ∀ p, (next p).2.running = b.running) :
    (b.withPhase id next).2.running = b.running := by
  unfold withPhase
  split
  · exact keeps _
  · rfl
  · rfl

theorem register_running (b : Bridge H) (env : Conditions) (id : HotkeyId) (chord : Chord) :
    (b.register env id chord).2.running = b.running := by
  refine b.withPhase_running id fun p => ?_
  split
  · rfl
  · split
    · rfl
    · split <;> rfl

theorem bind_running (b : Bridge H) (refusal : Option String) (id : HotkeyId) (handler : H) :
    (b.bind refusal id handler).2.running = b.running := by
  unfold bind
  cases refusal with
  | some reason => rfl
  | none =>
    dsimp only
    split <;> first | rfl | exact reclaim_running ..

theorem unbind_running (b : Bridge H) (id : HotkeyId) :
    (b.unbind id).2.running = b.running := by
  refine b.withPhase_running id fun p => ?_
  cases p with
  | unregistered => rfl
  | registered => rfl
  | bound =>
    dsimp only
    split
    · rfl
    · rw [clearSlot_eq]

theorem unregisterHandle_running (b : Bridge H) (env : Conditions) (h : Handle) :
    (b.unregisterHandle env h).2.running = b.running := by
  refine b.withPhase_running h.id fun p => ?_
  split
  · rfl
  · dsimp only
    cases b.slots.get? h.id with
    | none =>
      dsimp only [Option.elim_none]
      split
      · rfl
      · split <;> rfl
    | some c =>
      dsimp only [Option.elim_some]
      split
      · exact reclaim_running ..
      · split <;> exact reclaim_running ..

theorem unregister_running (b : Bridge H) (env : Conditions) (id : HotkeyId) :
    (b.unregister env id).2.running = b.running := by
  unfold unregister
  split
  · rfl
  · rename_i h _
    have kept := b.unregisterHandle_running env h
    split <;> simp_all

theorem registerAndBind_running (b : Bridge H) (env : Conditions) (refusal : Option String)
    (id : HotkeyId) (chord : Chord) (handler : H) :
    (b.registerAndBind env refusal id chord handler).2.running = b.running := by
  have registered := b.register_running env id chord
  unfold registerAndBind
  split
  · rename_i h b₁ _
    have bound := b₁.bind_running refusal id handler
    split
    · simp_all
    · simp_all
    · rename_i b₂ _
      have released := b₂.unregisterHandle_running env h
      split <;> simp_all
  · exact registered

theorem take_running (b : Bridge H) {m : Move H} (plain : m.isPlain = true) :
    (b.take m).2.running = b.running := by
  cases m with
  | register env id chord => exact b.register_running env id chord
  | bind refusal id handler => exact b.bind_running refusal id handler
  | registerAndBind env refusal id chord handler =>
    exact b.registerAndBind_running env refusal id chord handler
  | unbind id => exact b.unbind_running id
  | unregister env id => exact b.unregister_running env id
  | unregisterHandle env h => exact b.unregisterHandle_running env h
  | shutdown env => exact b.shutdown_running env
  | enter id => cases plain
  | leave => cases plain
  | listen listeners => rfl

theorem run_running (b : Bridge H) {moves : List (Move H)}
    (plain : ∀ m ∈ moves, m.isPlain = true) : (b.run moves).running = b.running := by
  induction moves generalizing b with
  | nil => rfl
  | cons m rest ih =>
    rw [run_cons, ih _ fun m later => plain m (List.mem_cons_of_mem _ later)]
    exact b.take_running (plain m List.mem_cons_self)

theorem take_nests (b : Bridge H) {m : Move H} (plain : m.isPlain = true) :
    b.Nests (b.take m).2 := ⟨⟨[m], rfl⟩, b.take_running plain⟩

end Bridge

/-! ## What a dispatch makes of a bridge -/

/-- The states in which the dispatch of an event can leave a stage. The bridge dispatches it itself,
as long as there is one, or a router hands it to the callback of the bridge. -/
inductive Stage.Dispatched {σ H : Type} (t : Stage σ H) (e : Event) (s : σ) : σ → Prop
  | direct (alive : (t.bridge s).isAlive = true) : t.Dispatched e s (t.dispatch e s).2
  | routed {κ : Type} {r : Router κ} {callback : κ} {call : κ → Event → σ → Ending Bool × σ}
      {envs : σ → Conditions} (installed : r.callback = some callback)
      (ours : call callback = t.answer envs) : t.Dispatched e s (r.dispatch call e s).2

/-- The router leaves what its callback leaves, however the call ends. -/
theorem Router.dispatch_state {κ σ : Type} {call : κ → Event → σ → Ending Bool × σ}
    {r : Router κ} {callback : κ} (installed : r.callback = some callback) (e : Event) (s : σ) :
    (r.dispatch call e s).2 = (call callback e s).2 := by
  unfold Router.dispatch
  rw [installed]
  dsimp only
  split
  · rename_i answered
    rw [answered]
  · rename_i answered
    rw [answered]

namespace Bridge

variable {H : Type}

/-- What a dispatch makes of a bridge, and by which moves. Its listeners and its handlers may do
anything with the bridge in the meantime. -/
inductive Dispatches : Bridge H → List (Move H) → Bridge H → Prop
  | on {σ : Type} {t : Stage σ H} {c : Stage.Course σ H} (makes : t.Makes c) {e : Event}
      {s s' : σ} (dispatched : t.Dispatched e s s') :
      Dispatches (t.bridge s) (c.dispatch t e s) (t.bridge s')

namespace Dispatches

variable {backend : Backend} {strict : Bool} {moves more : List (Move H)} {b : Bridge H}

/-- A run that goes on with a dispatch is a longer run, and no other dispatch begins or ends. The
owner holds the bridge throughout, so it is not closed when the dispatch ends. -/
theorem run (dispatches : ((new backend strict).run moves).Dispatches more b) :
    b = (new backend strict).run (moves ++ more) ∧
      b.running = ((new backend strict).run moves).running := by
  rw [run_append]
  generalize reached : (new backend strict).run moves = start at dispatches ⊢
  cases dispatches with
  | @on σ t c makes e s s' dispatched =>
    have ran := makes.dispatch e s
    have running := makes.balanced.dispatch e s
    cases dispatched with
    | direct alive => exact ⟨ran, running⟩
    | routed installed ours =>
      have alive : (t.bridge s).isAlive = true := by
        have held := new_held_run backend strict moves
        rw [reached] at held
        simp [isAlive, held]
      have still : (t.bridge (t.dispatch e s).2).isAlive = true := by
        have held := new_held_run backend strict (moves ++ c.dispatch t e s)
        rw [run_append, reached, ← ran] at held
        simp [isAlive, held]
      rw [Router.dispatch_state installed, ours]
      simpa only [Stage.answer, Stage.dispatchHeld, Stage.settle, alive, still, if_true]
        using And.intro ran running

end Dispatches

end Bridge

/-- Nothing more is asked of foreign code than that it is lawful. -/
theorem Stage.Lawful.exists_dispatches {σ H : Type} {t : Stage σ H} (lawful : t.Lawful) {e : Event}
    {s s' : σ} (dispatched : t.Dispatched e s s') :
    ∃ more, (t.bridge s).Dispatches more (t.bridge s') := by
  obtain ⟨c, makes⟩ := lawful.exists_course
  exact ⟨_, .on makes dispatched⟩

/-! ## What handlers do -/

/-- One thing that a handler does with its bridge. -/
inductive Deed (H : Type)
  | move (m : Bridge.Move H) (plain : m.isPlain = true)
  | dispatch (e : Event)

/-- What a handler does, and how it ends then. -/
structure Conduct (H : Type) where
  deeds : List (Deed H) := []
  ending : Ending Bool := .returned true

namespace Stage

variable {H : Type}

/-- A bridge with nothing around it but its handlers. -/
def alone (call : H → Bridge H → Ending Bool × Bridge H) : Stage (Bridge H) H where
  bridge b := b
  update f := f
  notice _ b := b
  call handler _ := call handler

/-- Does one thing after the other. What its events come to does not matter to the handler, so a
panic goes no further than the event that it belongs to. -/
def perform (call : H → Bridge H → Ending Bool × Bridge H) : List (Deed H) → Bridge H → Bridge H
  | [], b => b
  | .move m _ :: rest, b => perform call rest (b.take m).2
  | .dispatch e :: rest, b => perform call rest ((alone call).dispatch e b).2

/-- Calls a handler. Handlers inside handlers act up to the given depth. -/
def act (conduct : H → Conduct H) : Nat → H → Bridge H → Ending Bool × Bridge H
  | 0, handler, b => ((conduct handler).ending, b)
  | depth + 1, handler, b =>
    ((conduct handler).ending, perform (act conduct depth) (conduct handler).deeds b)

/-- A bridge without listeners that do anything is lawful if its handlers nest. -/
theorem alone_lawful {call : H → Bridge H → Ending Bool × Bridge H}
    (nests : ∀ handler (b : Bridge H), b.Nests (call handler b).2) : (alone call).Lawful where
  bridge_update _ _ := rfl
  notice_nests _ _ := .refl _
  call_nests handler _ b := nests handler b

/-- Deeds nest if the calls that they lead to do. -/
theorem perform_nests {call : H → Bridge H → Ending Bool × Bridge H}
    (nests : ∀ handler (b : Bridge H), b.Nests (call handler b).2) (deeds : List (Deed H))
    (b : Bridge H) : b.Nests (perform call deeds b) := by
  induction deeds generalizing b with
  | nil => exact .refl b
  | cons deed rest ih =>
    cases deed with
    | move m plain => exact (b.take_nests plain).trans (ih _)
    | dispatch e => exact ((alone_lawful nests).dispatch_nests e b).trans (ih _)

/-- Handlers that make moves and send events are lawful, whatever they do and however deep they are
nested. -/
theorem act_lawful (conduct : H → Conduct H) (depth : Nat) :
    (alone (act conduct depth)).Lawful := by
  refine alone_lawful ?_
  induction depth with
  | zero => exact fun _ b => .refl b
  | succ depth ih => exact fun handler b => perform_nests ih (conduct handler).deeds b

/-- Handlers that make the moves that are given for them. -/
def told (moves : H → List (Bridge.Move H)) : Stage (Bridge H) H :=
  alone fun handler b => (.returned true, b.run (moves handler))

/-- The moves that handlers are told to make. -/
def Course.told (moves : H → List (Bridge.Move H)) : Course (Bridge H) H where
  notice _ _ := []
  call handler _ _ := moves handler

/-- Handlers that are told their moves make exactly these. -/
theorem told_makes {moves : H → List (Bridge.Move H)}
    (plain : ∀ handler, ∀ m ∈ moves handler, m.isPlain = true) :
    (told moves).Makes (.told moves) where
  balanced := ⟨fun _ _ => rfl, fun _ _ => rfl, fun handler _ b => b.run_running (plain handler)⟩
  notice_run _ _ := rfl
  call_run _ _ _ := rfl

theorem told_dispatches {moves : H → List (Bridge.Move H)}
    (plain : ∀ handler, ∀ m ∈ moves handler, m.isPlain = true) (e : Event) {b : Bridge H}
    (alive : b.isAlive = true) :
    b.Dispatches ((Course.told moves).dispatch (told moves) e b) ((told moves).dispatch e b).2 :=
  .on (told_makes plain) (.direct alive)

theorem act_dispatches (conduct : H → Conduct H) (depth : Nat) (e : Event) {b : Bridge H}
    (alive : b.isAlive = true) :
    ∃ more, b.Dispatches more ((alone (act conduct depth)).dispatch e b).2 :=
  (act_lawful conduct depth).exists_dispatches (.direct alive)

/-- A handler that sends the event of a key that comes up, as if to itself, and then unbinds itself.
-/
def echo (id : HotkeyId) : Unit → Conduct Unit := fun _ =>
  { deeds := [.dispatch ⟨id, false⟩, .move (.unbind id) rfl] }

end Stage

end Hotkeys
