import Hotkeys.Proofs.Bridge.Nested
import Hotkeys.Proofs.Script.Run
import Hotkeys.Script.Library

/-!
# What the library does is a run

A function or a method of the library makes moves, and which ones can be told from the runtime and
the arguments. The collection of objects and the end of a runtime are made of moves as well.
-/

namespace Hotkeys.Script.Runtime

variable {φ : Type} {r : Runtime φ} {items : Nat → List (Value φ)} {env : Conditions}
  {args : List (Value φ)}

/-! ## Objects from arguments -/

/-- A call that makes an object goes wrong before anything has happened, or makes the one that the
arguments name. -/
theorem createFrom_eq (r : Runtime φ) (items : Nat → List (Value φ)) (args : List (Value φ)) :
    r.createFrom items args =
      match requested items args with
      | .error e => .error e
      | .ok (chord, handler) => r.create chord handler := by
  unfold createFrom
  cases requested items args <;> rfl

theorem createFrom_eq_ok_iff {n : Nat} {r' : Runtime φ} :
    r.createFrom items args = .ok (n, r') ↔
      n = r.next ∧ ∃ id chord handler, requested items args = .ok (chord, handler) ∧
        freeId r.isTaken r.idBase = some id ∧ r' = r.insert id chord handler := by
  rw [createFrom_eq]
  cases requested items args with
  | error e => simp
  | ok named =>
    obtain ⟨chord, handler⟩ := named
    simp only [create_eq]
    cases freeId r.isTaken r.idBase with
    | none => simp
    | some id => simp [eq_comm]

/-! ## The moves of a call -/

/-- The moves of a function of the library. A new object that cannot be enabled is dropped at once.
-/
def callMoves (r : Runtime φ) (items : Nat → List (Value φ)) (env : Conditions) (f : Function)
    (args : List (Value φ)) : List (Move φ) :=
  match f, requested items args with
  | .new, .ok (chord, handler) => [.create chord handler]
  | .bind, .ok (chord, handler) =>
    .create chord handler ::
      match r.create chord handler with
      | .error _ => []
      | .ok (n, r) =>
        .enable env n ::
          match (r.enable env n).1 with
          | .ok () => []
          | .error _ => [.drop env n]
  | _, _ => []

def methodMoves (env : Conditions) (n : Nat) : Method → List (Move φ)
  | .enable => [.enable env n]
  | .disable => [.disable env n]
  | .enabled | .id | .key => []

/-- The moves of a collection: all objects are dropped but those that can still be reached. -/
def collectMoves (r : Runtime φ) (env : Conditions) (reachable : List Nat) : List (Move φ) :=
  (r.objects.filter fun o => !reachable.contains o.number).map (.drop env ·.number)

/-- The move of a runtime that shuts down, whether or not its bridge is still there. -/
def shutdownMove (r : Runtime φ) (env : Conditions) : Move φ :=
  if r.bridge.isAlive then .bridge (.shutdown env) else .close env

/-- A call of the library is a run of its moves. -/
theorem call_run (r : Runtime φ) (items : Nat → List (Value φ)) (env : Conditions)
    (f : Function) (args : List (Value φ)) :
    (r.call items env f args).2 = r.run (r.callMoves items env f args) := by
  cases f with
  | new =>
    simp only [call, callMoves, createFrom_eq]
    cases requested items args with
    | error e => rfl
    | ok named =>
      simp only [run_cons, run_nil, take]
      cases r.create named.1 named.2 <;> rfl
  | bind =>
    simp only [call, callMoves, createFrom_eq]
    cases requested items args with
    | error e => rfl
    | ok named =>
      simp only [run_cons, take]
      cases r.create named.1 named.2 with
      | error e => rfl
      | ok created =>
        obtain ⟨n, r⟩ := created
        simp only [run_cons, take]
        cases r.enable env n with
        | mk result r => cases result <;> rfl
  | keycode => rfl
  | ids => rfl

/-- A call of a method is a run of its moves. -/
theorem callMethod_run (r : Runtime φ) (env : Conditions) (m : Method) (n : Nat) :
    (r.callMethod env m n).2 = r.run (methodMoves env n m) := by
  cases m with
  | enable =>
    simp only [callMethod, methodMoves, run_cons, run_nil, take]
    cases r.enable env n with
    | mk result r => cases result <;> rfl
  | disable => rfl
  | enabled => rfl
  | id => rfl
  | key => rfl

/-- A collection is a run of drops. -/
theorem collect_run (r : Runtime φ) (env : Conditions) (reachable : List Nat) :
    r.collect env reachable = r.run (r.collectMoves env reachable) := by
  unfold collect collectMoves
  generalize r.objects = objects
  induction objects generalizing r with
  | nil => rfl
  | cons o rest ih =>
    rw [List.foldl_cons, ih, List.filter_cons]
    cases reachable.contains o.number <;> rfl

theorem shutdown_run_move (r : Runtime φ) (env : Conditions) :
    (r.shutdown env).2 = r.take (r.shutdownMove env) := by
  unfold shutdownMove
  split
  · rename_i alive
    simp only [take, alive, if_true]
    rfl
  · rename_i gone
    simp only [take, gone]
    rfl

/-! ## All of them are moves of scripts -/

/-- Whether a move neither begins nor ends a dispatch. -/
def Move.isPlain : Move φ → Bool
  | .bridge m => m.isPlain
  | _ => true

theorem isPlain_of_mem_enabling {o : HotkeyObject φ} :
    ∀ m ∈ r.enabling env o, m.isPlain = true := by
  unfold enabling
  split <;> simp [Bridge.Move.isPlain]

theorem isPlain_of_mem_releasing {o : HotkeyObject φ} :
    ∀ m ∈ r.releasing env o, m.isPlain = true := by
  unfold releasing
  split
  · simp
  · split <;> simp [Bridge.Move.isPlain]

/-- What is asked of the bridge leaves the dispatches under way alone as the move does. -/
theorem isPlain_of_mem_calls {m : Move φ} (plain : m.isPlain = true) :
    ∀ m' ∈ r.calls m, m'.isPlain = true := by
  cases m with
  | create chord handler => simp [calls]
  | enable env n =>
    cases found : r.object? n with
    | none => simp [calls, found]
    | some o => simpa [calls, found] using isPlain_of_mem_enabling
  | disable env n =>
    cases found : r.object? n with
    | none => simp [calls, found]
    | some o => simpa [calls, found] using isPlain_of_mem_releasing
  | drop env n =>
    cases found : r.object? n with
    | none => simp [calls, found]
    | some o => simpa [calls, found] using isPlain_of_mem_releasing
  | bridge m =>
    simp only [calls]
    split
    · exact List.forall_mem_singleton.mpr plain
    · simp
  | letGo => simp [calls]
  | close env =>
    simp only [calls]
    split <;> simp [Bridge.Move.isPlain]
  | listen listeners => simp [calls, Bridge.Move.isPlain]

/-- A plain move begins and ends no dispatch. -/
theorem take_running (r : Runtime φ) {m : Move φ} (plain : m.isPlain = true) :
    (r.take m).bridge.running = r.bridge.running := by
  obtain ran | ⟨-, dropped⟩ := r.take_bridge m
  · rw [ran]
    exact r.bridge.run_running (isPlain_of_mem_calls plain)
  · rw [dropped]

theorem run_running (r : Runtime φ) {moves : List (Move φ)}
    (plain : ∀ m ∈ moves, m.isPlain = true) : (r.run moves).bridge.running = r.bridge.running := by
  induction moves generalizing r with
  | nil => rfl
  | cons m rest ih =>
    obtain ⟨first, later⟩ := List.forall_mem_cons.mp plain
    rw [run_cons, ih _ later, r.take_running first]

theorem isOwn_of_mem_callMoves {f : Function} :
    ∀ m ∈ r.callMoves items env f args, m.isOwn = true ∧ m.isPlain = true := by
  intro m member
  unfold callMoves at member
  split at member
  · cases List.mem_singleton.mp member
    exact ⟨rfl, rfl⟩
  · split at member
    · cases List.mem_singleton.mp member
      exact ⟨rfl, rfl⟩
    · split at member <;> simp only [List.mem_cons, List.not_mem_nil, or_false] at member
      · rcases member with rfl | rfl <;> exact ⟨rfl, rfl⟩
      · rcases member with rfl | rfl | rfl <;> exact ⟨rfl, rfl⟩
  · cases member

theorem isOwn_of_mem_methodMoves {n : Nat} {method : Method} :
    ∀ m ∈ (methodMoves env n method : List (Move φ)), m.isOwn = true ∧ m.isPlain = true := by
  cases method <;> simp [methodMoves, Move.isOwn, Move.isPlain]

theorem isOwn_of_mem_collectMoves {reachable : List Nat} :
    ∀ m ∈ r.collectMoves env reachable, m.isOwn = true ∧ m.isPlain = true := by
  intro m member
  obtain ⟨o, -, rfl⟩ := List.mem_map.mp member
  exact ⟨rfl, rfl⟩

theorem shutdownMove_isOwn (r : Runtime φ) (env : Conditions) :
    (r.shutdownMove env).isOwn = true ∧ (r.shutdownMove env).isPlain = true := by
  unfold shutdownMove
  split <;> exact ⟨rfl, rfl⟩

end Hotkeys.Script.Runtime
