import Hotkeys.Proofs.Bridge.System
import Hotkeys.Proofs.Handles.Basic
import Hotkeys.Script.Runtime

/-!
# Runs of a script runtime

A run is a list of moves: what scripts do with their hotkey objects, and what hosts, events and the
end of the runtime do with the bridge. An object that is collected is dropped by a move like any
other, so it may go at any point of a run, also in the middle of handlers.

## Implementation notes

A dispatch is two moves of the bridge, as in the runs of bridges, and a shutdown is one. Everything
that is done with the bridge itself needs a bridge; only the end of a bridge, and what its listeners
make of that, comes later.
-/

namespace Hotkeys.Script.Runtime

variable {φ : Type}

/-- One thing that happens to a runtime. -/
inductive Move (φ : Type)
  | create (chord : Chord) (handler : φ)
  | enable (env : Conditions) (n : Nat)
  | disable (env : Conditions) (n : Nat)
  | drop (env : Conditions) (n : Nat)
  /-- Something is done with the bridge itself, as long as there is one. -/
  | bridge (m : Bridge.Move φ)
  /-- The owner of the bridge drops it. -/
  | letGo
  /-- A bridge that nothing holds any more gives up what it has. -/
  | close (env : Conditions)
  | listen (listeners : Listeners)

def take (r : Runtime φ) : Move φ → Runtime φ
  | .create chord handler =>
    match r.create chord handler with
    | .ok (_, r) => r
    | .error _ => r
  | .enable env n => (r.enable env n).2
  | .disable env n => r.disable env n
  | .drop env n => r.dropObject env n
  | .bridge m => if r.bridge.isAlive then { r with bridge := (r.bridge.take m).2 } else r
  | .letGo => { r with bridge := { r.bridge with held := false } }
  | .close env => if r.bridge.isAlive then r else (r.shutdown env).2
  | .listen listeners => { r with bridge := { r.bridge with listeners } }

def run (r : Runtime φ) : List (Move φ) → Runtime φ
  | [] => r
  | m :: rest => (r.take m).run rest

/-- A runtime for which nothing has happened yet. -/
def start (backend : Backend) (strict : Bool) (idBase : HotkeyId) : Runtime φ :=
  { bridge := .new backend strict, idBase }

@[simp] theorem run_nil (r : Runtime φ) : r.run [] = r := rfl

@[simp] theorem run_cons (r : Runtime φ) (m : Move φ) (rest : List (Move φ)) :
    r.run (m :: rest) = (r.take m).run rest := rfl

theorem run_append (r : Runtime φ) (first second : List (Move φ)) :
    r.run (first ++ second) = (r.run first).run second := by
  induction first generalizing r with
  | nil => rfl
  | cons m rest ih => exact ih _

/-- What every move keeps is kept by every run. -/
theorem run_keeps {P : Runtime φ → Prop} (keeps : ∀ r m, P r → P (r.take m)) {r : Runtime φ}
    (start : P r) (moves : List (Move φ)) : P (r.run moves) := by
  induction moves generalizing r with
  | nil => exact start
  | cons m rest ih => exact ih (keeps r m start)

/-- The moves of scripts, of dispatches and of the runtime when it shuts down. -/
def Move.isOwn : Move φ → Bool
  | .create .. | .enable .. | .disable .. | .drop .. | .close _ | .listen _ => true
  | .bridge (.enter _) | .bridge .leave | .bridge (.shutdown _) => true
  | .bridge _ | .letGo => false

/-! ## What a move asks of the bridge -/

/-- What an object asks of the bridge when it is enabled. -/
def enabling (r : Runtime φ) (env : Conditions) (o : HotkeyObject φ) : List (Bridge.Move φ) :=
  if r.isEnabled o || !r.bridge.isAlive then []
  else [.registerAndBind env env.storeFault o.id o.chord o.handler]

/-- What an object asks of the bridge when it gives up its registration. -/
def releasing (r : Runtime φ) (env : Conditions) (o : HotkeyObject φ) : List (Bridge.Move φ) :=
  match o.handle with
  | none => []
  | some h => if r.liveHandle? o.id == some h then [.unregisterHandle env h] else []

/-- What a move asks of the bridge. -/
def calls (r : Runtime φ) : Move φ → List (Bridge.Move φ)
  | .enable env n => (r.object? n).elim [] (r.enabling env)
  | .disable env n | .drop env n => (r.object? n).elim [] (r.releasing env)
  | .bridge m => if r.bridge.isAlive then [m] else []
  | .close env => if r.bridge.isAlive then [] else [.shutdown env]
  | .listen listeners => [.listen listeners]
  | .create .. | .letGo => []

/-! ## Closed forms -/

/-- The runtime with a new object. -/
def insert (r : Runtime φ) (id : HotkeyId) (chord : Chord) (handler : φ) : Runtime φ :=
  { r with
    reserved := id :: r.reserved
    objects := r.objects ++ [{ number := r.next, id, chord, handler }]
    next := r.next + 1 }

/-- The runtime without an object. -/
def remove (r : Runtime φ) (o : HotkeyObject φ) : Runtime φ :=
  { r with
    objects := r.objects.filter fun other => other.number != o.number
    reserved := r.reserved.filter (· != o.id) }

theorem object?_some {r : Runtime φ} {n : Nat} {o : HotkeyObject φ} (found : r.object? n = some o) :
    o ∈ r.objects ∧ o.number = n :=
  ⟨List.mem_of_find?_eq_some found, by simpa using List.find?_some found⟩

/-- An object is enabled if its handle is the live one of its identifier. -/
theorem isEnabled_iff {r : Runtime φ} {o : HotkeyObject φ} :
    r.isEnabled o = true ↔ ∃ h, o.handle = some h ∧ r.liveHandle? o.id = some h := by
  simp [isEnabled, Option.any_eq_true]

theorem liveHandle?_eq_some_iff {r : Runtime φ} {id : HotkeyId} {h : Handle} :
    r.liveHandle? id = some h ↔
      r.bridge.isAlive = true ∧ h.id = id ∧ r.bridge.handles.isLive h = true := by
  unfold liveHandle?
  split
  · rename_i alive
    simp [alive, Bridge.handle?, Handles.handle?_eq_some_iff]
  · rename_i gone
    simp [gone]

theorem create_eq (r : Runtime φ) (chord : Chord) (handler : φ) :
    r.create chord handler =
      match freeId r.isTaken r.idBase with
      | none => .error (.idsExhausted r.idBase)
      | some id => .ok (r.next, r.insert id chord handler) := by
  unfold create allocate
  cases freeId r.isTaken r.idBase <;> rfl

/-- An object that is not enabled is registered if there is a bridge for it. -/
theorem enable_eq {r : Runtime φ} {n : Nat} {o : HotkeyObject φ} (found : r.object? n = some o)
    (idle : r.isEnabled o = false) (alive : r.bridge.isAlive = true) (env : Conditions) :
    r.enable env n =
      match r.bridge.registerAndBind env env.storeFault o.id o.chord o.handler with
      | (.done h, bridge) =>
        (.ok (), { r with bridge }.updateObject n fun o => { o with handle := some h })
      | (.failed e, bridge) => (.error e.message, { r with bridge })
      | (.aborted e, bridge) => (.error e.message, { r with bridge }) := by
  cases registered : r.bridge.registerAndBind env env.storeFault o.id o.chord o.handler with
  | mk outcome bridge =>
    cases outcome <;> simp [enable, found, idle, alive, registered]

theorem calls_enable {r : Runtime φ} {n : Nat} {o : HotkeyObject φ} (found : r.object? n = some o)
    (idle : r.isEnabled o = false) (alive : r.bridge.isAlive = true) (env : Conditions) :
    r.calls (.enable env n) = [.registerAndBind env env.storeFault o.id o.chord o.handler] := by
  simp [calls, enabling, found, idle, alive]

/-- Enabling an object leaves all as it is, or the bridge takes the object and it gets a new handle,
or the bridge does not take it. -/
theorem enable_cases (r : Runtime φ) (env : Conditions) (n : Nat) :
    (r.enable env n).2 = r ∧ r.calls (.enable env n) = [] ∨
    ∃ o, r.object? n = some o ∧ r.isEnabled o = false ∧ r.bridge.isAlive = true ∧
      ∃ outcome bridge,
        r.bridge.registerAndBind env env.storeFault o.id o.chord o.handler = (outcome, bridge) ∧
        ((∃ h, outcome = .done h ∧ r.enable env n =
            (.ok (), { r with bridge }.updateObject n fun o => { o with handle := some h })) ∨
          (∀ h, outcome ≠ .done h) ∧
            ∃ message, r.enable env n = (.error message, { r with bridge })) := by
  cases found : r.object? n with
  | none => exact .inl (by simp [enable, calls, found])
  | some o =>
    cases idle : r.isEnabled o with
    | true => exact .inl (by simp [enable, calls, enabling, found, idle])
    | false =>
      cases alive : r.bridge.isAlive with
      | false => exact .inl (by simp [enable, calls, enabling, found, idle, alive])
      | true =>
        rw [enable_eq found idle alive]
        cases registered :
          r.bridge.registerAndBind env env.storeFault o.id o.chord o.handler with
        | mk outcome bridge =>
          refine .inr ⟨o, rfl, idle, rfl, outcome, bridge, registered, ?_⟩
          cases outcome with
          | done h => exact .inl ⟨h, rfl, rfl⟩
          | failed e => exact .inr ⟨nofun, e.message, rfl⟩
          | aborted e => exact .inr ⟨nofun, e.message, rfl⟩

theorem enable_bridge (r : Runtime φ) (env : Conditions) (n : Nat) :
    (r.enable env n).2.bridge = r.bridge.run (r.calls (.enable env n)) := by
  cases found : r.object? n with
  | none => simp [enable, calls, found]
  | some o =>
    cases idle : r.isEnabled o with
    | true => simp [enable, calls, enabling, found, idle]
    | false =>
      cases alive : r.bridge.isAlive with
      | false => simp [enable, calls, enabling, found, idle, alive]
      | true =>
        rw [calls_enable found idle alive, enable_eq found idle alive, Bridge.run_cons,
          Bridge.run_nil]
        dsimp only [Bridge.take, Bridge.answer]
        split <;> simp_all [updateObject]

/-- A release by an object is a run of the moves that it asks for. -/
theorem release_bridge (r : Runtime φ) (env : Conditions) (o : HotkeyObject φ) :
    (r.release env o).2 = r.bridge.run (r.releasing env o) := by
  unfold release releasing
  cases o.handle with
  | none => rfl
  | some h =>
    dsimp only
    split <;> rfl

/-- An object that gives up its registration asks for one release if it is enabled, and for nothing
otherwise. The bridge takes offence at neither. -/
theorem release_cases {r : Runtime φ} (paired : r.bridge.Paired) (env : Conditions)
    (o : HotkeyObject φ) :
    (r.isEnabled o = true ∧ ∃ holding backend outcome,
      r.bridge.handles.live.get? o.id = some holding ∧
      (r.bridge.backend.release env o.id holding.os = .ok backend ∨
        (∃ e, r.bridge.backend.release env o.id holding.os = .error e) ∧
          backend = r.bridge.backend) ∧
      (∀ e, outcome ≠ .aborted e) ∧
      r.release env o = (outcome, r.bridge.withdraw o.id backend)) ∨
    r.isEnabled o = false ∧ r.release env o = (.done (), r.bridge) := by
  cases enabled : r.isEnabled o with
  | true =>
    obtain ⟨h, handle, current⟩ := isEnabled_iff.mp enabled
    obtain ⟨-, id, live⟩ := liveHandle?_eq_some_iff.mp current
    obtain ⟨holding, entry, serial⟩ := Handles.isLive_iff.mp live
    have released : r.release env o = r.bridge.unregisterHandle env h := by
      simp [release, handle, current]
    rw [paired.unregisterHandle_eq, entry] at released
    simp only [serial, if_true] at released
    rw [id] at entry released
    cases answer : r.bridge.backend.release env o.id holding.os with
    | ok backend =>
      rw [answer] at released
      exact .inl ⟨rfl, holding, backend, .done (), entry, .inl answer, nofun, released⟩
    | error e =>
      rw [answer] at released
      exact .inl ⟨rfl, holding, _, .failed e, entry, .inr ⟨⟨e, answer⟩, rfl⟩, nofun, released⟩
  | false =>
    refine .inr ⟨rfl, ?_⟩
    unfold release
    cases handle : o.handle with
    | none => rfl
    | some h =>
      have other : (r.liveHandle? o.id == some h) = false := by
        simpa [isEnabled, handle] using enabled
      simp [other]

theorem disable_eq {r : Runtime φ} {n : Nat} {o : HotkeyObject φ} (found : r.object? n = some o)
    (env : Conditions) :
    r.disable env n =
      { r.updateObject n fun o => { o with handle := none } with
        bridge := (r.release env o).2 } := by
  simp only [disable, found]

theorem disable_bridge (r : Runtime φ) (env : Conditions) (n : Nat) :
    (r.disable env n).bridge = r.bridge.run (r.calls (.disable env n)) := by
  cases found : r.object? n with
  | none => simp [disable, calls, found]
  | some o =>
    rw [disable_eq found, calls, found]
    exact r.release_bridge env o

/-- The handle of an object that goes does not matter. -/
theorem filter_updateObject (r : Runtime φ) (n : Nat) (h : Option Handle) :
    (r.updateObject n fun o => { o with handle := h }).objects.filter (fun o => o.number != n) =
      r.objects.filter fun o => o.number != n := by
  unfold updateObject
  dsimp only
  induction r.objects with
  | nil => rfl
  | cons o rest ih =>
    rw [List.map_cons, List.filter_cons, List.filter_cons, ih]
    by_cases same : o.number = n <;> simp [same]

/-- An object is dropped with what it has registered. -/
theorem dropObject_eq {r : Runtime φ} {n : Nat} {o : HotkeyObject φ} (found : r.object? n = some o)
    (env : Conditions) :
    r.dropObject env n = { r.remove o with bridge := (r.release env o).2 } := by
  have kept := r.filter_updateObject n none
  obtain ⟨-, rfl⟩ := object?_some found
  simp only [dropObject, found, disable_eq found, remove, kept]
  rfl

theorem dropObject_bridge (r : Runtime φ) (env : Conditions) (n : Nat) :
    (r.dropObject env n).bridge = (r.disable env n).bridge := by
  cases found : r.object? n with
  | none => simp [dropObject, disable, found]
  | some o => rw [dropObject_eq found, disable_eq found]

/-- A move changes the bridge by what it asks of it, or lets it go. -/
theorem take_bridge (r : Runtime φ) (m : Move φ) :
    (r.take m).bridge = r.bridge.run (r.calls m) ∨
      m = .letGo ∧ (r.take m).bridge = { r.bridge with held := false } := by
  cases m with
  | create chord handler =>
    refine .inl ?_
    simp only [take, create_eq]
    cases freeId r.isTaken r.idBase <;> rfl
  | enable env n => exact .inl (r.enable_bridge env n)
  | disable env n => exact .inl (r.disable_bridge env n)
  | drop env n => exact .inl ((r.dropObject_bridge env n).trans (r.disable_bridge env n))
  | bridge m =>
    refine .inl ?_
    simp only [take, calls]
    split <;> rfl
  | letGo => exact .inr ⟨rfl, rfl⟩
  | close env =>
    refine .inl ?_
    simp only [take, calls]
    split <;> rfl
  | listen listeners => exact .inl rfl

/-- Whether the backend has refused a release during a run. -/
def refusesIn (r : Runtime φ) : List (Move φ) → Bool
  | [] => false
  | m :: rest => r.bridge.refusesIn (r.calls m) || (r.take m).refusesIn rest

/-- What every change of a bridge keeps, and its owner when he drops it, is kept along every run. -/
theorem run_keeps_of_change (refused : Bool) {P : Bridge φ → Prop}
    (keeps : ∀ {b b' : Bridge φ}, b.Paired → P b → Bridge.Change refused b b' → P b')
    (dropped : ∀ {b : Bridge φ}, P b → P { b with held := false }) {r : Runtime φ}
    (paired : r.bridge.Paired) (start : P r.bridge) (moves : List (Move φ))
    (allowed : r.refusesIn moves = true → refused = true) :
    (r.run moves).bridge.Paired ∧ P (r.run moves).bridge := by
  induction moves generalizing r with
  | nil => exact ⟨paired, start⟩
  | cons m rest ih =>
    simp only [refusesIn, Bool.or_eq_true] at allowed
    have later : (r.take m).refusesIn rest = true → refused = true := fun h => allowed (.inr h)
    cases r.take_bridge m with
    | inl ran =>
      refine ih ?_ ?_ later
      · rw [ran]
        exact paired.run _
      · rw [ran]
        exact paired.run_keeps_of_change keeps start fun h => allowed (.inl h)
    | inr gone =>
      refine ih ?_ ?_ later
      · rw [gone.2]
        exact paired
      · rw [gone.2]
        exact dropped start

theorem start_paired (backend : Backend) (strict : Bool) (idBase : HotkeyId)
    (moves : List (Move φ)) : ((start backend strict idBase).run moves).bridge.Paired :=
  (run_keeps_of_change true (P := fun _ => True) (fun _ _ _ => trivial) (fun _ => trivial)
    (Bridge.new_paired backend strict) trivial moves fun _ => rfl).1

/-- A simulated system agrees with the bridge of a runtime as with any other. -/
theorem start_agrees {kind : Backend.Kind} (played : kind ≠ .portable) (strict : Bool)
    (idBase : HotkeyId) (moves : List (Move φ)) (refused : Bool)
    (allowed : (start (.ofKind kind) strict idBase).refusesIn moves = true → refused = true) :
    ((start (.ofKind kind) strict idBase).run moves).bridge.Agrees refused := by
  have simulated : Backend.ofKind kind = .simulated {} := by
    cases kind with
    | portable => exact absurd rfl played
    | _ => rfl
  have fresh : (start (.ofKind kind) strict idBase : Runtime φ).bridge.Agrees refused := by
    rw [simulated]
    exact Bridge.new_agrees strict
  exact (run_keeps_of_change refused (fun _ agrees change => agrees.change change)
    (fun agrees => agrees.congr rfl rfl) (Bridge.new_paired _ strict) fresh moves allowed).2

end Hotkeys.Script.Runtime
