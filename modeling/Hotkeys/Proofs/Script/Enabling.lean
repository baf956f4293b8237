import Hotkeys.Proofs.Bridge.Lasting
import Hotkeys.Proofs.Script.Objects

/-!
# What it means that an object is enabled

An object that is enabled holds a live handle, and this handle comes from a registration of its own
combination with its own handler. Enabling it once more leaves all as it is. So what its identifier
stands for is read off the log of the bridge: it is the handler of the object until a host unbinds
it, and then whatever hosts have bound since.

## Implementation notes

The owner of the bridge holds it throughout. The bridge is then at the end of a run of its own,
which consists of all that has been asked of it.
-/

namespace Hotkeys.Script.Runtime

variable {φ : Type} {r : Runtime φ} {base : HotkeyId} {n : Nat} {o : HotkeyObject φ} {h : Handle}

/-! ## The run of the bridge -/

/-- What a run asks of the bridge. -/
def asked (r : Runtime φ) : List (Move φ) → List (Bridge.Move φ)
  | [] => []
  | m :: rest => r.calls m ++ (r.take m).asked rest

theorem asked_concat (r : Runtime φ) (moves : List (Move φ)) (m : Move φ) :
    r.asked (moves ++ [m]) = r.asked moves ++ (r.run moves).calls m := by
  induction moves generalizing r with
  | nil => simp [asked]
  | cons first rest ih => simp [asked, ih]

/-- The bridge of a runtime has made the moves that the runtime has asked of it. -/
theorem run_bridge {moves : List (Move φ)} (held : .letGo ∉ moves) (r : Runtime φ) :
    (r.run moves).bridge = r.bridge.run (r.asked moves) := by
  induction moves generalizing r with
  | nil => rfl
  | cons m rest ih =>
    have kept : m ≠ .letGo := fun dropped => held (dropped ▸ List.mem_cons_self)
    have taken := (r.take_bridge m).resolve_right fun gone => kept gone.1
    rw [run_cons, ih (fun later => held (List.mem_cons_of_mem _ later)), taken, asked,
      Bridge.run_append]

/-! ## Where handles come from -/

/-- A registration of the object among what has been asked of the bridge has given out the handle.
-/
def Stems (b : Bridge φ) (asked : List (Bridge.Move φ)) (o : HotkeyObject φ) (h : Handle) : Prop :=
  ∃ before env fault since,
    asked = before ++ .registerAndBind env fault o.id o.chord o.handler :: since ∧
    ((b.run before).take (.registerAndBind env fault o.id o.chord o.handler)).1 =
      .done (.handle h)

theorem Stems.append {b : Bridge φ} {asked : List (Bridge.Move φ)} (stems : Stems b asked o h)
    (more : List (Bridge.Move φ)) : Stems b (asked ++ more) o h := by
  obtain ⟨before, env, fault, since, rfl, took⟩ := stems
  exact ⟨before, env, fault, since ++ more, by simp, took⟩

/-- An object with a handle has had it before, or has just got it from the bridge. -/
theorem mem_take (orderly : r.Orderly base) {m : Move φ} (member : o ∈ (r.take m).objects)
    (handle : o.handle = some h) :
    o ∈ r.objects ∨ ∃ env, r.calls m =
        [.registerAndBind env env.storeFault o.id o.chord o.handler] ∧
      (r.bridge.take (.registerAndBind env env.storeFault o.id o.chord o.handler)).1 =
        .done (.handle h) := by
  cases m with
  | create chord handler =>
    simp only [take, create_eq] at member
    cases found : freeId r.isTaken r.idBase with
    | none =>
      rw [found] at member
      exact .inl member
    | some id =>
      rw [found] at member
      cases List.mem_append.mp member with
      | inl old => exact .inl old
      | inr new =>
        cases List.mem_singleton.mp new
        cases handle
  | enable env n =>
    obtain ⟨same, -⟩ |
        ⟨target, found, idle, alive, outcome, bridge, took, ⟨h', rfl, done⟩ | ⟨-, _, left⟩⟩ :=
      r.enable_cases env n
    · rw [take, same] at member
      exact .inl member
    · rw [take, done] at member
      obtain ⟨o', old, ⟨number, rfl⟩ | ⟨-, rfl⟩⟩ := mem_updateObject.mp member
      · obtain ⟨present, number'⟩ := object?_some found
        cases orderly.eq_of_number old present (number.trans number'.symm)
        cases handle
        refine .inr ⟨env, calls_enable found idle alive env, ?_⟩
        rw [Bridge.take_of_registerAndBind took]
      · exact .inl old
    · rw [take, left] at member
      exact .inl member
  | disable env n =>
    cases found : r.object? n with
    | none =>
      simp only [take, disable, found] at member
      exact .inl member
    | some target =>
      rw [take, disable_eq found] at member
      obtain ⟨o', old, ⟨-, rfl⟩ | ⟨-, rfl⟩⟩ := mem_updateObject.mp member
      · cases handle
      · exact .inl old
  | drop env n =>
    cases found : r.object? n with
    | none =>
      simp only [take, dropObject, found] at member
      exact .inl member
    | some target =>
      rw [take, dropObject_eq found] at member
      exact .inl (List.mem_of_mem_filter member)
  | bridge m =>
    simp only [take] at member
    split at member <;> exact .inl member
  | letGo => exact .inl member
  | close env =>
    simp only [take] at member
    split at member <;> exact .inl member
  | listen listeners => exact .inl member

/-- The handle of an object stems from a registration with the handler of this object. -/
theorem stems_run (backend : Backend) (strict : Bool) (base : HotkeyId) {moves : List (Move φ)}
    (held : .letGo ∉ moves) (member : o ∈ ((start backend strict base).run moves).objects)
    (handle : o.handle = some h) :
    Stems (.new backend strict) ((start backend strict base).asked moves) o h := by
  induction moves using List.reverseRecOn with
  | nil => cases member
  | append_singleton moves m ih =>
    have held' : .letGo ∉ moves := fun before => held (List.mem_append_left _ before)
    have bridge := run_bridge held' (start backend strict base)
    rw [run_append] at member
    rw [asked_concat]
    obtain old | ⟨env, calls, took⟩ :=
      mem_take (start_orderly backend strict base moves) member handle
    · exact (ih held' old).append _
    · rw [calls]
      rw [bridge] at took
      exact ⟨_, env, env.storeFault, [], rfl, took⟩

/-! ## Enabling an object -/

/-- An object that is not enabled is taken by the bridge when it is enabled. -/
theorem enable_ok (found : r.object? n = some o) (idle : r.isEnabled o = false) {env : Conditions}
    (enabled : (r.enable env n).1 = .ok ()) :
    ∃ h, r.bridge.take (.registerAndBind env env.storeFault o.id o.chord o.handler) =
        (.done (.handle h), (r.enable env n).2.bridge) ∧
      r.calls (.enable env n) = [.registerAndBind env env.storeFault o.id o.chord o.handler] := by
  cases alive : r.bridge.isAlive with
  | false => simp [enable, found, idle, alive] at enabled
  | true =>
    rw [enable_eq found idle alive] at enabled ⊢
    cases took : r.bridge.registerAndBind env env.storeFault o.id o.chord o.handler with
    | mk outcome bridge =>
      rw [took] at enabled
      cases outcome <;> cases enabled
      exact ⟨_, Bridge.take_of_registerAndBind took, calls_enable found idle alive env⟩

/-- Enabling an object that is enabled does nothing. -/
theorem enable_of_isEnabled (found : r.object? n = some o) (enabled : r.isEnabled o = true)
    (env : Conditions) : (r.enable env n).2 = r ∧ r.calls (.enable env n) = [] := by
  constructor
  · simp [enable, found, enabled]
  · simp [calls, enabling, found, enabled]

section Enable

variable {backend : Backend} {strict : Bool} {moves : List (Move φ)} {env : Conditions}

/-- Where enabling an object succeeds, its handle comes from a registration of its own, and nothing
has been asked of the bridge since, unless the object has been enabled already. -/
theorem stems_enable (held : .letGo ∉ moves)
    (found : ((start backend strict base).run moves).object? n = some o)
    (enabled : (((start backend strict base).run moves).enable env n).1 = .ok ()) :
    ∃ before env' fault since h bridge,
      (start backend strict base).asked (moves ++ [.enable env n]) =
        before ++ .registerAndBind env' fault o.id o.chord o.handler :: since ∧
      ((Bridge.new backend strict).run before).take
        (.registerAndBind env' fault o.id o.chord o.handler) = (.done (.handle h), bridge) ∧
      (((start backend strict base).run moves).enable env n).2.bridge = bridge.run since ∧
      (bridge.run since).handle? o.id = some h ∧
      (((start backend strict base).run moves).isEnabled o = false → since = []) := by
  have bridge : ((start backend strict base).run moves).bridge =
      (Bridge.new backend strict).run ((start backend strict base).asked moves) :=
    run_bridge held _
  rw [asked_concat]
  cases idle : ((start backend strict base).run moves).isEnabled o with
  | true =>
    obtain ⟨h, handle, current⟩ := isEnabled_iff.mp idle
    obtain ⟨-, id, live⟩ := liveHandle?_eq_some_iff.mp current
    obtain ⟨same, nothing⟩ := enable_of_isEnabled found idle env
    obtain ⟨before, env', fault, since, split, took⟩ :=
      stems_run backend strict base held (object?_some found).1 handle
    rw [split, Bridge.run_append, Bridge.run_cons] at bridge
    refine ⟨before, env', fault, since, h, _, ?_, Prod.ext took rfl, ?_, ?_, nofun⟩
    · rw [nothing, List.append_nil, split]
    · rw [same, bridge]
    · rw [← bridge]
      exact Handles.handle?_eq_some_iff.mpr ⟨id, live⟩
  | false =>
    obtain ⟨h, took, calls⟩ := enable_ok found idle enabled
    have paired := start_paired backend strict base moves
    obtain ⟨-, -, current, -⟩ := paired.take_registerAndBind took
    rw [bridge] at took
    exact ⟨_, env, env.storeFault, [], h, _, by rw [calls], took, rfl, current, fun _ => rfl⟩

/-- Where enabling an object succeeds, its identifier is registered for its own combination, by a
registration of its own. The handler that comes with this registration is called until the
identifier is unbound. Enabling does not bind it again: from then on it is the handler that has been
bound since that is called, or none. -/
theorem enable_run (held : .letGo ∉ moves)
    (found : ((start backend strict base).run moves).object? n = some o)
    (enabled : (((start backend strict base).run moves).enable env n).1 = .ok ()) :
    let first := start backend strict base
    let after := ((first.run moves).enable env n).2.bridge
    let log := (Bridge.new backend strict).log (first.asked (moves ++ [.enable env n]))
    after = (Bridge.new backend strict).run (first.asked (moves ++ [.enable env n])) ∧
    ∃ earlier env' fault h later,
      log = earlier ++
        (.registerAndBind env' fault o.id o.chord o.handler, .done (.handle h)) :: later ∧
      after.handle? o.id = some h ∧ after.chord? o.id = some o.chord ∧
      ((first.run moves).isEnabled o = false → later = []) ∧
      ((∀ e ∈ later, ¬ Bridge.Unbinds o.id e) → Bridge.lastBound log o.id = some o.handler) ∧
      ((∃ e ∈ later, Bridge.Unbinds o.id e) →
        Bridge.lastBound log o.id = Bridge.lastBound later o.id) ∧
      after.phase o.id =
        .done (if (Bridge.lastBound log o.id).isSome then .bound else .registered) ∧
      ∀ (σ : Type) (t : Stage σ φ) (envs : σ → Conditions) (s : σ) (e : Event),
        t.Lawful → t.Quiet → t.bridge s = after → e.id = o.id →
          ∃ ending, t.invocations envs e s =
            (Bridge.lastBound log o.id).toList.map fun handler => ⟨handler, e, ending⟩ := by
  intro first after log
  obtain ⟨before, env', fault, since, h, bridge, split, took, ends, current, fresh⟩ :=
    stems_enable held found enabled
  have after_eq : after = bridge.run since := ends
  have paired := (Bridge.new_paired (H := φ) backend strict).run before
  obtain ⟨id, live⟩ := Handles.handle?_eq_some_iff.mp current
  have log_eq : log = (Bridge.new backend strict).log before ++
      (.registerAndBind env' fault o.id o.chord o.handler, .done (.handle h)) ::
        bridge.log since := by
    change Bridge.log _ (first.asked _) = _
    rw [split, Bridge.log_append, Bridge.log, took]
  have reached :
      after = (Bridge.new backend strict).run (first.asked (moves ++ [.enable env n])) := by
    rw [split, Bridge.run_append, Bridge.run_cons, took, after_eq]
  have registered : after.isRegistered o.id = true := by
    obtain ⟨holding, entry, -⟩ := Handles.isLive_iff.mp live
    rw [after_eq, ← id]
    exact Bridge.isRegistered_iff.mpr ⟨holding, entry⟩
  obtain ⟨kept, unbound⟩ := paired.lastBound_registerAndBind took live
    ((Bridge.new backend strict).log before)
  refine ⟨reached, _, env', fault, h, bridge.log since, log_eq, ?_, ?_, ?_, ?_, ?_, ?_, ?_⟩
  · rw [after_eq]
    exact current
  · rw [after_eq]
    exact paired.chord?_run took live
  · intro idle
    rw [fresh idle]
    rfl
  · rw [log_eq]
    exact kept
  · rw [log_eq]
    exact unbound
  · rw [reached] at registered ⊢
    exact Bridge.phase_run backend strict registered
  · intro σ t envs s e lawful quiet arrived same
    rw [reached] at arrived registered
    rw [← same] at registered ⊢
    exact lawful.invocations_run quiet arrived envs (arrived ▸ registered)

end Enable

/-- A host unbinds the identifier of an object that is enabled, and binds a handler of its own. -/
def rebinding : List (Move Nat) :=
  [.create { key := 65 } 1, .enable {} 1, .bridge (.unbind 1000), .bridge (.bind none 1000 2)]

/-- Enabling the object succeeds then, and an event calls the handler of the host. -/
theorem enable_run_rebinding :
    let r : Runtime Nat := (start (.simulated {}) true 1000).run rebinding
    let o : HotkeyObject Nat := ⟨1, 1000, { key := 65 }, 1, some ⟨1000, 1⟩⟩
    .letGo ∉ rebinding ∧ r.object? 1 = some o ∧ (r.enable {} 1).1 = .ok () ∧
    (r.enable {} 1).2.bridge.chord? 1000 = some { key := 65 } ∧
    ∀ (σ : Type) (t : Stage σ Nat) (envs : σ → Conditions) (s : σ), t.Lawful → t.Quiet →
      t.bridge s = (r.enable {} 1).2.bridge →
        ∃ ending, t.invocations envs ⟨1000, true⟩ s = [⟨2, ⟨1000, true⟩, ending⟩] := by
  intro r o
  have held : .letGo ∉ rebinding := by simp [rebinding]
  have found : r.object? 1 = some o := rfl
  have enabled : (r.enable {} 1).1 = .ok () := rfl
  have given : Bridge.lastBound ((Bridge.new (.simulated {}) true).log
      ((start (.simulated {}) true 1000).asked (rebinding ++ [.enable {} 1]))) o.id = some 2 := rfl
  obtain ⟨-, _, _, _, _, _, -, -, chord, -, -, -, -, meets⟩ := enable_run held found enabled
  refine ⟨held, found, enabled, chord, ?_⟩
  intro σ t envs s lawful quiet arrived
  obtain ⟨ending, called⟩ := meets σ t envs s ⟨1000, true⟩ lawful quiet arrived rfl
  rw [given] at called
  exact ⟨ending, called⟩

/-- A host unbinds the identifier of an object that is enabled. Enabling the object succeeds all the
same, but the identifier is left without a handler, and an event calls nothing. -/
theorem enable_unbound :
    let r : Runtime Unit := (start (.simulated {}) true 1000).run
      [.create { key := 65 } (), .enable {} 1, .bridge (.unbind 1000)]
    let after := (r.enable {} 1).2.bridge
    r.idOf 1 = some 1000 ∧ (r.enable {} 1).1 = .ok () ∧ after.phase 1000 = .done .registered ∧
    ∀ (σ : Type) (t : Stage σ Unit) (envs : σ → Conditions) (s : σ) (down : Bool), t.Lawful →
      t.bridge s = after → t.invocations envs ⟨1000, down⟩ s = [] := by
  refine ⟨rfl, rfl, rfl, ?_⟩
  intro σ t envs s down lawful arrived
  have empty : (t.bridge s).slots.get? 1000 = none := by
    rw [arrived]
    rfl
  rw [Stage.invocations_eq, lawful.called_of_slot_eq_none empty, ite_self]

end Hotkeys.Script.Runtime
