import Hotkeys.Proofs.Script.Library

/-!
# What handlers do is a run

A dispatch whose handlers make moves and dispatch again is made of moves, however deep this goes.
`Leads` puts all ways together in which a runtime is used: calls of the library, collections, the
end of the runtime, and events.
-/

namespace Hotkeys.Script.Runtime

variable {φ σ : Type} {allowed : Move φ → Bool}

/-! ## The moves of a dispatch -/

/-- The moves that the foreign code of a stage makes: listeners that notice something, and handlers.
-/
structure Course (σ φ : Type) where
  notice : Nat → σ → List (Move φ)
  call : φ → Event → σ → List (Move φ)

namespace Course

variable (c : Course σ φ) (t : Stage σ φ) (e : Event)

def offer (s : σ) (i : Nat) : List (Move φ) :=
  let offered := (t.bridge s).listeners.offer i e
  let s := t.update (fun b => { b with listeners := (b.listeners.offer i e).2 }) s
  .listen offered.2 :: if offered.1 then c.notice i s else []

def announce : List Nat → σ → List (Move φ)
  | [], _ => []
  | i :: rest, s => c.offer t e s i ++ announce rest (t.offer e s i)

/-- The moves of a dispatch, from its beginning to its end, with all that foreign code does in
between. -/
def dispatch (s : σ) : List (Move φ) :=
  match (t.bridge s).enter e.id with
  | none => []
  | some b =>
    let s := t.update (fun _ => b) s
    let heard := t.announce e s
    .bridge (.enter e.id) :: (c.announce t e (t.bridge s).listeners.senders s ++
      (t.bridge heard).current?.elim [] (c.call · e heard) ++ [.bridge .leave])

/-- The moves that end the listeners of a bridge, one after the other. -/
def disconnect : List Nat → σ → List (Move φ)
  | [], _ => []
  | i :: rest, s =>
    let cut := t.update (fun b => { b with listeners := b.listeners.disconnect i }) s
    .listen ((t.bridge s).listeners.disconnect i) ::
      (c.notice i cut ++ disconnect rest (t.notice i cut))

/-- The moves that let a bridge go which nothing holds any more. -/
def settle (env : Conditions) (s : σ) : List (Move φ) :=
  if (t.bridge s).isAlive then []
  else
    let shut := t.update (fun b => (b.shutdown env).2) s
    .close env :: c.disconnect t (t.bridge shut).listeners.senders shut

/-- The moves of the callback that a bridge has installed. -/
def answer (envs : σ → Conditions) (s : σ) : List (Move φ) :=
  if (t.bridge s).isAlive then
    let after := (t.dispatch e s).2
    c.dispatch t e s ++ c.settle t (envs after) after
  else []

/-- Foreign code makes allowed moves only. -/
structure Within (allowed : Move φ → Bool) : Prop where
  notice : ∀ i s, ∀ m ∈ c.notice i s, allowed m = true
  call : ∀ handler e s, ∀ m ∈ c.call handler e s, allowed m = true

end Course

/-- A stage around a runtime, on which foreign code makes the moves of the course. -/
structure Hosts (t : Stage σ φ) (runtime : σ → Runtime φ) (c : Course σ φ) : Prop where
  balanced : t.Balanced
  bridge : ∀ s, t.bridge s = (runtime s).bridge
  update : ∀ f s, runtime (t.update f s) = { runtime s with bridge := f (runtime s).bridge }
  notice : ∀ i s, runtime (t.notice i s) = (runtime s).run (c.notice i s)
  call : ∀ handler e s, runtime (t.call handler e s).2 = (runtime s).run (c.call handler e s)

namespace Hosts

variable {t : Stage σ φ} {runtime : σ → Runtime φ} {c : Course σ φ}

theorem offer (hosts : Hosts t runtime c) (e : Event) (s : σ) (i : Nat) :
    runtime (t.offer e s i) = (runtime s).run (c.offer t e s i) := by
  unfold Stage.offer Course.offer
  dsimp only
  rw [run_cons, take, ← hosts.bridge]
  split
  · rw [hosts.notice, hosts.update, hosts.bridge]
  · rw [hosts.update, run_nil, hosts.bridge]

theorem announce (hosts : Hosts t runtime c) (e : Event) (s : σ) :
    runtime (t.announce e s) =
      (runtime s).run (c.announce t e (t.bridge s).listeners.senders s) := by
  unfold Stage.announce
  generalize (t.bridge s).listeners.senders = senders
  induction senders generalizing s with
  | nil => rfl
  | cons i rest ih => rw [List.foldl_cons, ih, Course.announce, run_append, hosts.offer]

/-- The end of a dispatch needs no bridge: without one no dispatch is under way. -/
theorem leave (hosts : Hosts t runtime c) (s : σ) :
    runtime (t.update Bridge.leave s) = (runtime s).take (.bridge .leave) := by
  rw [hosts.update, take]
  split
  · rfl
  · rename_i gone
    have idle : (runtime s).bridge.held = false ∧ (runtime s).bridge.running = [] := by
      simpa [Bridge.isAlive] using gone
    simp [Bridge.leave, idle.2]

/-- A dispatch is a run. -/
theorem dispatch (hosts : Hosts t runtime c) {s : σ} (alive : (t.bridge s).isAlive = true)
    (e : Event) : runtime (t.dispatch e s).2 = (runtime s).run (c.dispatch t e s) := by
  unfold Stage.dispatch Course.dispatch
  cases entered : (t.bridge s).enter e.id with
  | none => rfl
  | some b =>
    have begun : (runtime s).take (.bridge (.enter e.id)) = runtime (t.update (fun _ => b) s) := by
      rw [hosts.bridge] at alive entered
      simp [take, alive, Bridge.take, entered, hosts.update]
    dsimp only
    rw [run_cons, begun, run_append, run_append, ← hosts.announce, run_cons, run_nil]
    split
    · rename_i silent
      rw [silent, hosts.leave]
      rfl
    · rename_i handler current
      rw [current, hosts.leave, hosts.call]
      rfl

theorem disconnect (hosts : Hosts t runtime c) (senders : List Nat) (s : σ) :
    runtime (senders.foldl (fun s i => t.notice i
      (t.update (fun b => { b with listeners := b.listeners.disconnect i }) s)) s) =
      (runtime s).run (c.disconnect t senders s) := by
  induction senders generalizing s with
  | nil => rfl
  | cons i rest ih =>
    rw [List.foldl_cons, ih, Course.disconnect, run_cons, run_append, hosts.notice, hosts.update,
      take, hosts.bridge]

theorem settle (hosts : Hosts t runtime c) (env : Conditions) (s : σ) :
    runtime (t.settle env s) = (runtime s).run (c.settle t env s) := by
  unfold Stage.settle Course.settle
  split
  · rfl
  · rename_i gone
    have shut : (runtime s).take (.close env) =
        runtime (t.update (fun b => (b.shutdown env).2) s) := by
      rw [hosts.bridge] at gone
      simp only [take, gone, hosts.update]
      rfl
    rw [run_cons, shut]
    exact hosts.disconnect _ _

/-- The callback of a bridge is a run. -/
theorem answer (hosts : Hosts t runtime c) (envs : σ → Conditions) (e : Event) (s : σ) :
    runtime (t.answer envs e s).2 = (runtime s).run (c.answer t e envs s) := by
  unfold Stage.answer Course.answer
  split
  · rw [run_append, ← hosts.dispatch ‹_› e]
    exact hosts.settle _ _
  · rfl

end Hosts

/-! ## Only allowed moves -/

namespace Course.Within

variable {c : Course σ φ} {t : Stage σ φ} {e : Event} {s : σ}
  (own : ∀ m : Move φ, m.isOwn = true → allowed m = true)

include own

theorem offer (within : c.Within allowed) {i : Nat} : ∀ m ∈ c.offer t e s i, allowed m = true := by
  refine List.forall_mem_cons.mpr ⟨own (.listen _) rfl, ?_⟩
  split
  · exact within.notice _ _
  · exact nofun

theorem announce (within : c.Within allowed) {senders : List Nat} :
    ∀ m ∈ c.announce t e senders s, allowed m = true := by
  induction senders generalizing s with
  | nil => exact nofun
  | cons i rest ih => exact List.forall_mem_append.mpr ⟨within.offer own, ih⟩

theorem dispatch (within : c.Within allowed) :
    ∀ m ∈ c.dispatch t e s, allowed m = true := by
  unfold Course.dispatch
  split
  · exact nofun
  · refine List.forall_mem_cons.mpr ⟨own _ rfl, ?_⟩
    refine List.forall_mem_append.mpr ⟨List.forall_mem_append.mpr ⟨within.announce own, ?_⟩, ?_⟩
    · cases (t.bridge (t.announce e (t.update _ s))).current? with
      | none => exact nofun
      | some handler => exact within.call handler e _
    · exact List.forall_mem_singleton.mpr (own _ rfl)

theorem disconnect (within : c.Within allowed) {senders : List Nat} :
    ∀ m ∈ c.disconnect t senders s, allowed m = true := by
  induction senders generalizing s with
  | nil => exact nofun
  | cons i rest ih =>
    refine List.forall_mem_cons.mpr ⟨own (.listen _) rfl, ?_⟩
    exact List.forall_mem_append.mpr ⟨within.notice _ _, ih⟩

theorem answer (within : c.Within allowed) {envs : σ → Conditions} :
    ∀ m ∈ c.answer t e envs s, allowed m = true := by
  unfold Course.answer
  split
  · refine List.forall_mem_append.mpr ⟨within.dispatch own, ?_⟩
    unfold Course.settle
    split
    · exact nofun
    · exact List.forall_mem_cons.mpr ⟨own (.close _) rfl, within.disconnect own⟩
  · exact nofun

end Course.Within

/-! ## All that happens to a runtime -/

/-- What becomes of a runtime, and by which moves: a function or a method of the library is called,
objects are collected, the runtime shuts down, or an event comes to its bridge, directly or through
a router. Handlers and listeners may do whatever is allowed, also dispatch again. -/
inductive Leads (allowed : Move φ → Bool) : Runtime φ → List (Move φ) → Runtime φ → Prop
  | call (r : Runtime φ) (items : Nat → List (Value φ)) (env : Conditions) (f : Function)
      (args : List (Value φ)) :
      Leads allowed r (r.callMoves items env f args) (r.call items env f args).2
  | method (r : Runtime φ) (env : Conditions) (m : Method) (n : Nat) :
      Leads allowed r (methodMoves env n m) (r.callMethod env m n).2
  | collect (r : Runtime φ) (env : Conditions) (reachable : List Nat) :
      Leads allowed r (r.collectMoves env reachable) (r.collect env reachable)
  | shutdown (r : Runtime φ) (env : Conditions) :
      Leads allowed r [r.shutdownMove env] (r.shutdown env).2
  | dispatch {σ : Type} {t : Stage σ φ} {runtime : σ → Runtime φ} {c : Course σ φ}
      (hosts : Hosts t runtime c) (within : c.Within allowed) {s : σ}
      (alive : (t.bridge s).isAlive = true) (e : Event) :
      Leads allowed (runtime s) (c.dispatch t e s) (runtime (t.dispatch e s).2)
  | route {σ κ : Type} {t : Stage σ φ} {runtime : σ → Runtime φ} {c : Course σ φ}
      (hosts : Hosts t runtime c) (within : c.Within allowed) {router : Router κ} {callback : κ}
      {call : κ → Event → σ → Ending Bool × σ} {envs : σ → Conditions}
      (installed : router.callback = some callback) (ours : call callback = t.answer envs)
      (e : Event) (s : σ) :
      Leads allowed (runtime s) (c.answer t e envs s) (runtime (router.dispatch call e s).2)

namespace Leads

variable {r r' : Runtime φ} {moves : List (Move φ)}

theorem run (leads : r.Leads allowed moves r') : r' = r.run moves := by
  cases leads with
  | call r items env f args => exact r.call_run items env f args
  | method r env m n => exact r.callMethod_run env m n
  | collect r env reachable => exact r.collect_run env reachable
  | shutdown r env => exact r.shutdown_run_move env
  | dispatch hosts within alive e => exact hosts.dispatch alive e
  | route hosts within installed ours e s =>
    rw [Router.dispatch_state installed, ours]
    exact hosts.answer _ e s

/-- What scripts do is made of moves of their own. -/
theorem isAllowed (leads : r.Leads allowed moves r')
    (own : ∀ m : Move φ, m.isOwn = true → allowed m = true) : ∀ m ∈ moves, allowed m = true := by
  cases leads with
  | call r items env f args => exact fun m member => own m (isOwn_of_mem_callMoves m member).1
  | method r env m n => exact fun m member => own m (isOwn_of_mem_methodMoves m member).1
  | collect r env reachable => exact fun m member => own m (isOwn_of_mem_collectMoves m member).1
  | shutdown r env => exact List.forall_mem_singleton.mpr (own _ (r.shutdownMove_isOwn env).1)
  | dispatch hosts within alive e => exact within.dispatch own
  | route hosts within installed ours e s => exact within.answer own

/-- Every dispatch that begins has ended. -/
theorem running (leads : r.Leads allowed moves r') : r'.bridge.running = r.bridge.running := by
  cases leads with
  | call r items env f args =>
    rw [call_run]
    exact r.run_running fun m member => (isOwn_of_mem_callMoves m member).2
  | method r env m n =>
    rw [callMethod_run]
    exact r.run_running fun m member => (isOwn_of_mem_methodMoves m member).2
  | collect r env reachable =>
    rw [collect_run]
    exact r.run_running fun m member => (isOwn_of_mem_collectMoves m member).2
  | shutdown r env =>
    rw [shutdown_run_move]
    exact r.take_running (r.shutdownMove_isOwn env).2
  | @dispatch σ t runtime c hosts within s alive e =>
    rw [← hosts.bridge, ← hosts.bridge]
    exact hosts.balanced.dispatch e s
  | @route σ κ t runtime c hosts within router callback call envs installed ours e s =>
    rw [Router.dispatch_state installed, ours, ← hosts.bridge, ← hosts.bridge]
    exact hosts.balanced.answer envs e s

end Leads

/-! ## Handlers -/

/-- One thing that a handler does. -/
inductive Deed (φ : Type)
  | move (m : Move φ)
  | dispatch (env : Conditions) (e : Event)

def Deed.isAllowed (allowed : Move φ → Bool) : Deed φ → Bool
  | move m => allowed m
  | dispatch .. => true

/-- Whether what is done leaves no dispatch unfinished. -/
def Deed.isPlain : Deed φ → Bool := isAllowed Move.isPlain

/-- A runtime with nothing around it but its handlers. -/
def alone (call : φ → Runtime φ → Ending Bool × Runtime φ) : Stage (Runtime φ) φ where
  bridge r := r.bridge
  update f r := { r with bridge := f r.bridge }
  notice _ r := r
  call handler _ := call handler

/-- Does one thing after the other. What becomes of an event does not matter to the handler. -/
def perform (call : φ → Runtime φ → Ending Bool × Runtime φ) :
    List (Deed φ) → Runtime φ → Runtime φ
  | [], r => r
  | .move m :: rest, r => perform call rest (r.take m)
  | .dispatch env e :: rest, r => perform call rest ((alone call).answer (fun _ => env) e r).2

/-- Calls a handler that does what it is told. Handlers in handlers act up to the given depth. -/
def act (deeds : φ → List (Deed φ)) (ending : φ → Ending Bool) :
    Nat → φ → Runtime φ → Ending Bool × Runtime φ
  | 0, handler, r => (ending handler, r)
  | depth + 1, handler, r => (ending handler, perform (act deeds ending depth) (deeds handler) r)

/-- The moves of handlers that have nothing around them. -/
def Course.alone (moves : φ → Runtime φ → List (Move φ)) : Course (Runtime φ) φ where
  notice _ _ := []
  call handler _ := moves handler

/-- The moves of one thing after the other, where handlers make the given ones. -/
def performMoves (call : φ → Runtime φ → Ending Bool × Runtime φ)
    (moves : φ → Runtime φ → List (Move φ)) : List (Deed φ) → Runtime φ → List (Move φ)
  | [], _ => []
  | .move m :: rest, r => m :: performMoves call moves rest (r.take m)
  | .dispatch env e :: rest, r =>
    (Course.alone moves).answer (alone call) e (fun _ => env) r ++
      performMoves call moves rest ((alone call).answer (fun _ => env) e r).2

/-- The moves of a handler that does what it is told. -/
def actMoves (deeds : φ → List (Deed φ)) (ending : φ → Ending Bool) :
    Nat → φ → Runtime φ → List (Move φ)
  | 0, _, _ => []
  | depth + 1, handler, r =>
    performMoves (act deeds ending depth) (actMoves deeds ending depth) (deeds handler) r

section Handlers

variable {call : φ → Runtime φ → Ending Bool × Runtime φ}
  {moves : φ → Runtime φ → List (Move φ)}

/-- What a handler does when it is called: the moves that are told, and every dispatch that it begins
it ends. -/
structure Tells (call : φ → Runtime φ → Ending Bool × Runtime φ)
    (moves : φ → Runtime φ → List (Move φ)) : Prop where
  run : ∀ handler r, (call handler r).2 = r.run (moves handler r)
  running : ∀ handler r, (call handler r).2.bridge.running = r.bridge.running

theorem Tells.hosts (tells : Tells call moves) : Hosts (alone call) id (.alone moves) where
  balanced := ⟨fun _ _ => rfl, fun _ _ => rfl, fun handler _ r => tells.running handler r⟩
  bridge _ := rfl
  update _ _ := rfl
  notice _ _ := rfl
  call handler _ r := tells.run handler r

theorem Tells.perform (tells : Tells call moves) {deeds : List (Deed φ)}
    (plain : ∀ d ∈ deeds, d.isPlain = true) (r : Runtime φ) :
    perform call deeds r = r.run (performMoves call moves deeds r) ∧
      (Runtime.perform call deeds r).bridge.running = r.bridge.running := by
  induction deeds generalizing r with
  | nil => exact ⟨rfl, rfl⟩
  | cons d rest ih =>
    obtain ⟨first, later⟩ := List.forall_mem_cons.mp plain
    cases d with
    | move m =>
      obtain ⟨ran, running⟩ := ih later (r.take m)
      exact ⟨ran, running.trans (r.take_running first)⟩
    | dispatch env e =>
      have ran : ((alone call).answer (fun _ => env) e r).2 =
          r.run ((Course.alone moves).answer (alone call) e (fun _ => env) r) :=
        tells.hosts.answer (fun _ => env) e r
      obtain ⟨rest_ran, running⟩ := ih later ((alone call).answer (fun _ => env) e r).2
      rw [Runtime.perform, performMoves, run_append, ← ran]
      exact ⟨rest_ran, running.trans (tells.hosts.balanced.answer (fun _ => env) e r)⟩

/-- Handlers that make moves and send events make runs, however deep they are nested. -/
theorem act_hosts {deeds : φ → List (Deed φ)} (ending : φ → Ending Bool)
    (plain : ∀ handler, ∀ d ∈ deeds handler, d.isPlain = true) (depth : Nat) :
    Hosts (alone (act deeds ending depth)) id (.alone (actMoves deeds ending depth)) := by
  refine Tells.hosts ?_
  induction depth with
  | zero => exact ⟨fun _ _ => rfl, fun _ _ => rfl⟩
  | succ depth ih =>
    exact ⟨fun handler r => (ih.perform (plain handler) r).1,
      fun handler r => (ih.perform (plain handler) r).2⟩

theorem performMoves_allowed (own : ∀ m : Move φ, m.isOwn = true → allowed m = true)
    (makes : ∀ handler r, ∀ m ∈ moves handler r, allowed m = true) {deeds : List (Deed φ)}
    (can : ∀ d ∈ deeds, d.isAllowed allowed = true) (r : Runtime φ) :
    ∀ m ∈ performMoves call moves deeds r, allowed m = true := by
  have within : (Course.alone moves).Within allowed := ⟨fun _ _ => nofun, fun h _ => makes h⟩
  induction deeds generalizing r with
  | nil => exact nofun
  | cons d rest ih =>
    obtain ⟨first, later⟩ := List.forall_mem_cons.mp can
    cases d with
    | move m => exact List.forall_mem_cons.mpr ⟨first, ih later _⟩
    | dispatch env e => exact List.forall_mem_append.mpr ⟨within.answer own, ih later _⟩

/-- Handlers that are told to make allowed moves make no other ones. -/
theorem act_within {deeds : φ → List (Deed φ)} (ending : φ → Ending Bool)
    (can : ∀ handler, ∀ d ∈ deeds handler, d.isAllowed allowed = true)
    (own : ∀ m : Move φ, m.isOwn = true → allowed m = true) (depth : Nat) :
    (Course.alone (actMoves deeds ending depth)).Within allowed := by
  refine ⟨fun _ _ => nofun, fun handler _ r => ?_⟩
  induction depth generalizing handler r with
  | zero => exact nofun
  | succ depth ih => exact performMoves_allowed own ih (can handler) r

/-- An event for a bridge whose handlers do as they are told. -/
theorem act_leads {deeds : φ → List (Deed φ)} (ending : φ → Ending Bool)
    (plain : ∀ handler, ∀ d ∈ deeds handler, d.isPlain = true)
    (can : ∀ handler, ∀ d ∈ deeds handler, d.isAllowed allowed = true)
    (own : ∀ m : Move φ, m.isOwn = true → allowed m = true) (depth : Nat) {r : Runtime φ}
    (alive : r.bridge.isAlive = true) (e : Event) :
    r.Leads allowed
      ((Course.alone (actMoves deeds ending depth)).dispatch (alone (act deeds ending depth)) e r)
      ((alone (act deeds ending depth)).dispatch e r).2 :=
  .dispatch (act_hosts ending plain depth) (act_within ending can own depth) alive e

end Handlers

end Hotkeys.Script.Runtime
