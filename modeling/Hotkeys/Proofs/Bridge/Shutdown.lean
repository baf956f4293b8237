import Hotkeys.Proofs.Bridge.Calls
import Hotkeys.Proofs.Bridge.Drain
import Hotkeys.Proofs.Handles.Basic
import Hotkeys.Script.Runtime

/-!
# After a shutdown

A shutdown leaves a bridge without entries and slots. The handles that have been given out stay
dead whatever happens later, a dispatch that is under way finds its handler gone, and an identifier
stays without a handler until one is bound anew.
-/

namespace Hotkeys

namespace Bridge

open Backend

variable {H : Type} {b b' : Bridge H} {r : Bool} {h : Handle} {id : HotkeyId}

/-- After a shutdown no identifier is registered. -/
theorem shutdown_phase (b : Bridge H) (env : Conditions) (id : HotkeyId) :
    (b.shutdown env).2.phase id = .done .unregistered := by
  have registered : (b.shutdown env).2.isRegistered id = false := by
    rw [isRegistered, shutdown_handles]
    rfl
  have bound : (b.shutdown env).2.isBound id = false := by
    rw [isBound, shutdown_slots]
    rfl
  rw [phase, registered, bound]
  rfl

/-! ## Handles -/

/-- A change adds an entry to the table of handles, takes one or all out, or leaves it alone. -/
theorem Change.handles_cases (change : Change r b b') :
    b'.handles = b.handles ∨
    (∃ id os chord, b.handles.contains id = false ∧ b'.handles = b.handles.add id os chord) ∨
    (∃ id, b'.handles = b.handles.drop id) ∨
    b'.handles = { b.handles with live := .empty } := by
  cases change with
  | enroll free accepted => exact .inr (.inl ⟨_, _, _, free, rfl⟩)
  | discard => exact .inl (discard_handles ..)
  | clearSlot => exact .inl (clearSlot_handles ..)
  | withdraw live released => exact .inr (.inr (.inl ⟨_, withdraw_handles ..⟩))
  | abandon allowed => exact .inr (.inr (.inl ⟨_, withdraw_handles ..⟩))
  | shutdown allowed => exact .inr (.inr (.inr (shutdown_handles ..)))
  | leave => exact .inl (leave_handles _)
  | _ => exact .inl rfl

/-- A handle that has been given out and is dead stays so. -/
theorem Change.spent_handle (change : Change r b b') (spent : b.handles.Spent h) :
    b'.handles.Spent h := by
  obtain same | ⟨id, os, chord, free, added⟩ | ⟨id, dropped⟩ | emptied := change.handles_cases
  · rwa [same]
  · rw [added]
    exact spent.add free os chord
  · rw [dropped]
    exact spent.drop id
  · rw [emptied]
    exact ⟨spent.1, rfl⟩

/-- A handle that is dead stays so, whatever moves follow. -/
theorem Paired.spent_handle_run (paired : b.Paired) (spent : b.handles.Spent h)
    (moves : List (Move H)) : (b.run moves).handles.Spent h :=
  paired.run_keeps_of_change (fun _ spent change => change.spent_handle spent) spent fun _ => rfl

theorem Change.nextSerial_le (change : Change r b b') :
    b.handles.nextSerial ≤ b'.handles.nextSerial := by
  obtain same | ⟨id, os, chord, -, added⟩ | ⟨id, dropped⟩ | emptied := change.handles_cases
  · rw [same]
  · rw [added]
    exact Nat.le_succ _
  · rw [dropped]
    exact Nat.le_refl _
  · rw [emptied]

theorem Paired.nextSerial_le_run (paired : b.Paired) (moves : List (Move H)) :
    b.handles.nextSerial ≤ (b.run moves).handles.nextSerial :=
  paired.run_keeps_of_change (P := fun b' => b.handles.nextSerial ≤ b'.handles.nextSerial)
    (fun _ le change => le.trans change.nextSerial_le) (Nat.le_refl _) fun _ => rfl

/-- A handle that a move gives out is older than those to come. -/
theorem Paired.take_handle (paired : b.Paired) {m : Move H}
    (given : (b.take m).1 = .done (.handle h)) :
    h.serial < (b.take m).2.handles.nextSerial := by
  have unit : ∀ {o : Outcome Unit}, o.map (fun _ => Answer.unit) ≠ .done (.handle h) := by
    intro o
    cases o <;> rintro ⟨⟩
  cases m with
  | register env id chord =>
    revert given
    simp only [Bridge.take, answer, paired.register_eq]
    split
    · rintro ⟨⟩
    · split
      · rintro ⟨⟩
      · rintro ⟨⟩
        exact Nat.lt_succ_self _
  | registerAndBind env refusal id chord handler =>
    revert given
    simp only [Bridge.take, answer, paired.registerAndBind_eq]
    split
    · rintro ⟨⟩
    · split
      · rintro ⟨⟩
      · split
        · rintro ⟨⟩
          exact Nat.lt_succ_self _
        · rintro ⟨⟩
  | bind refusal id handler => exact absurd given unit
  | unbind id => exact absurd given unit
  | unregister env id => exact absurd given unit
  | unregisterHandle env h => exact absurd given unit
  | _ => cases given

/-- What has been given out during a run is older than what is to come. -/
theorem Paired.log_handle (paired : b.Paired) {moves : List (Move H)} {m : Move H}
    (given : (m, .done (.handle h)) ∈ b.log moves) :
    h.serial < (b.run moves).handles.nextSerial := by
  induction moves generalizing b with
  | nil => cases given
  | cons first rest ih =>
    have paired' : (b.take first).2.Paired := Paired.take paired first
    cases List.mem_cons.mp given with
    | inl now =>
      obtain ⟨rfl, outcome⟩ := Prod.mk.inj now
      exact (paired.take_handle outcome.symm).trans_le (paired'.nextSerial_le_run rest)
    | inr later => exact ih paired' later

/-- A handle that has been given out before a shutdown is dead after any moves that follow. -/
theorem Paired.isLive_shutdown_run (paired : b.Paired) (older : h.serial < b.handles.nextSerial)
    (env : Conditions) (more : List (Move H)) :
    ((b.shutdown env).2.run more).handles.isLive h = false := by
  have spent : (b.shutdown env).2.handles.Spent h := by
    rw [shutdown_handles]
    exact ⟨older, rfl⟩
  exact ((Paired.take paired (.shutdown env)).spent_handle_run spent more).2

/-! ## Slots -/

/-- What is in a slot after a change was there before or is new. -/
theorem Change.slots (change : Change r b b') {c : Cell H} (slot : b'.slots.get? id = some c) :
    b.slots.get? id = some c ∨ c.token = b.nextToken := by
  cases change with
  | fill registered unbound =>
    obtain ⟨-, rfl⟩ | ⟨-, slot⟩ := Table.get?_insert_eq_some_iff.mp slot
    · exact .inr rfl
    · exact .inl slot
  | discard => exact .inl (by rwa [discard_slots] at slot)
  | clearSlot =>
    rw [clearSlot_slots] at slot
    exact .inl (Table.get?_erase_eq_some_iff.mp slot).2
  | withdraw live released =>
    rw [withdraw_slots] at slot
    exact .inl (Table.get?_erase_eq_some_iff.mp slot).2
  | abandon allowed =>
    rw [withdraw_slots] at slot
    exact .inl (Table.get?_erase_eq_some_iff.mp slot).2
  | shutdown allowed =>
    rw [shutdown_slots] at slot
    cases slot
  | leave => exact .inl (by rwa [leave_slots] at slot)
  | _ => exact .inl slot

/-- The cells in the slots have been stored since the next token was `n`. -/
structure Since (n : Nat) (b : Bridge H) : Prop where
  nextToken : n ≤ b.nextToken
  slots : ∀ {id c}, b.slots.get? id = some c → n ≤ c.token

theorem Since.change {n : Nat} (since : b.Since n) (change : Change r b b') : b'.Since n where
  nextToken := since.nextToken.trans change.cells.1
  slots slot := (change.slots slot).elim since.slots fun new => new ▸ since.nextToken

/-- After a shutdown there is no slot, so none has an old cell. -/
theorem shutdown_since (b : Bridge H) (env : Conditions) :
    (b.shutdown env).2.Since b.nextToken := by
  rw [shutdown_eq]
  exact ⟨Nat.le_refl _, nofun⟩

/-- A dispatch that has begun before a shutdown finds its handler gone, even where a new one has
been bound to the identifier in the meantime. -/
theorem Tidy.current?_eq_none (tidy : b.Tidy []) (paired : b.Paired) {env : Conditions}
    {more : List (Move H)}
    (begun : ((b.shutdown env).2.run more).running <:+ b.running) :
    ((b.shutdown env).2.run more).current? = none := by
  have paired' : (b.shutdown env).2.Paired := Paired.take paired (.shutdown env)
  have since : ((b.shutdown env).2.run more).Since b.nextToken :=
    paired'.run_keeps_of_change (fun _ since change => since.change change)
      (b.shutdown_since env) fun _ => rfl
  unfold current?
  split
  · rename_i c rest running
    have held : c ∈ b.cells :=
      mem_cells.mpr (.inr (begun.subset (running ▸ List.mem_cons_self)))
    have older : c.token < b.nextToken :=
      (Finset.mem_Ico.mp (tidy.issued c (List.mem_append_left _ held))).2
    refine if_neg fun found => ?_
    obtain ⟨c', slot, token⟩ := (Option.any_eq_true _ _).mp found
    have newer : b.nextToken ≤ c'.token := since.slots slot
    exact absurd (beq_iff_eq.mp token) (Nat.ne_of_gt (older.trans_le newer))
  · rfl

/-- The cells that outlast a shutdown are those that dispatches under way still hold. -/
theorem Tidy.shutdown_liveSlots (tidy : b.Tidy []) (env : Conditions) :
    (b.shutdown env).2.liveSlots = b.inFlight.card := by
  have cells : (b.shutdown env).2.cells = b.running.reduceOption := by
    rw [shutdown_eq]
    rfl
  have counted := (tidy.shutdown env).counted
  rw [List.append_nil, cells] at counted
  rw [liveSlots, counted, Int.toNat_natCast]
  rfl

/-- An identifier stays without a handler until one is bound to it. -/
theorem Paired.slot_eq_none (paired : b.Paired) (free : b.slots.get? id = none)
    {moves : List (Move H)}
    (unbound : ∀ entry ∈ b.log moves, ∀ handler, rebinds id entry ≠ some (some handler)) :
    (b.run moves).slots.get? id = none := by
  induction moves generalizing b with
  | nil => exact free
  | cons m rest ih =>
    have paired' : (b.take m).2.Paired := Paired.take paired m
    refine ih paired' ?_ fun entry later => unbound entry (List.mem_cons_of_mem _ later)
    have shows := paired.take_shows m id
    refine Option.eq_none_iff_forall_ne_some.mpr fun c slot => ?_
    have registered : (b.take m).2.isRegistered id = true :=
      paired' id (isBound_iff.mpr ⟨c, slot⟩)
    cases tells : rebinds id (m, (b.take m).1) with
    | none =>
      rw [tells] at shows
      cases slot.symm.trans ((shows registered).2.trans free)
    | some bound =>
      rw [tells] at shows
      cases bound with
      | none => simpa [slot] using shows registered
      | some handler => exact unbound _ List.mem_cons_self handler tells

theorem Paired.slot_shutdown_run (paired : b.Paired) {env : Conditions} {more : List (Move H)}
    (unbound : ∀ entry ∈ (b.shutdown env).2.log more, ∀ handler,
      rebinds id entry ≠ some (some handler)) :
    ((b.shutdown env).2.run more).slots.get? id = none := by
  have free : (b.shutdown env).2.slots.get? id = none := by
    rw [shutdown_slots]
    rfl
  exact (Paired.take paired (.shutdown env)).slot_eq_none free unbound

end Bridge

namespace Stage

open Bridge

variable {σ H : Type} {t : Stage σ H} {e : Event} {s : σ} {b : Bridge H}

/-! ## Dispatches -/

/-- A dispatch calls nothing where the slot is empty when it begins. -/
theorem Lawful.called_of_slot_eq_none (lawful : t.Lawful)
    (slot : (t.bridge s).slots.get? e.id = none) : t.called e s = [] := by
  obtain none_called | ⟨c, ending, registered, bound, -⟩ := lawful.called_eq (e := e) (s := s)
  · exact none_called
  · cases slot.symm.trans bound

/-- A dispatch calls nothing where no handler is current once the listeners have heard of it. -/
theorem called_of_current?_eq_none (entered : (t.bridge s).enter e.id = some b)
    (gone : (t.bridge (t.announce e (t.update (fun _ => b) s))).current? = none) :
    t.called e s = [] := by
  unfold called
  rw [entered]
  dsimp only
  rw [gone]

/-- A dispatch that calls nothing does not consume the event. -/
theorem dispatch_of_called (silent : t.called e s = []) : (t.dispatch e s).1 = .returned false := by
  rw [dispatch_ending, silent]
  rfl

/-- A router reports no success if its callback calls nothing. -/
theorem router_of_invocations {κ : Type} {envs : σ → Conditions}
    (silent : t.invocations envs e s = []) (r : Router κ) :
    (r.dispatch (fun _ => t.answer envs) e s).1 = false := by
  cases installed : r.callback with
  | none =>
    unfold Router.dispatch
    rw [installed]
  | some callback =>
    rw [Bool.eq_false_iff, Ne, Router.dispatch_eq_true_iff installed, answer_ending, silent]
    exact nofun

/-! ## Bridges that nobody holds -/

/-- Listeners do not reach a bridge that is gone. -/
def Forgets (t : Stage σ H) : Prop :=
  ∀ i s, (t.bridge s).isAlive = false →
    (t.bridge (t.notice i s)).isAlive = false ∧
      (t.bridge (t.notice i s)).backend = (t.bridge s).backend

/-- The end of a bridge is a shutdown. -/
theorem Lawful.settle_backend (lawful : t.Lawful) (forgets : t.Forgets) (env : Conditions)
    (gone : (t.bridge s).isAlive = false) :
    (t.bridge (t.settle env s)).backend = ((t.bridge s).shutdown env).2.backend := by
  have left : ∀ (senders : List Nat) (s : σ), (t.bridge s).isAlive = false →
      (t.bridge (senders.foldl (fun s i => t.notice i
        (t.update (fun b => { b with listeners := b.listeners.disconnect i }) s)) s)).backend =
      (t.bridge s).backend := by
    intro senders
    induction senders with
    | nil => exact fun _ _ => rfl
    | cons i rest ih =>
      intro s gone
      have updated := lawful.bridge_update
        (fun b => { b with listeners := b.listeners.disconnect i }) s
      obtain ⟨still, backend⟩ := forgets i
        (t.update (fun b => { b with listeners := b.listeners.disconnect i }) s)
        (by rw [updated]; exact gone)
      rw [List.foldl_cons, ih _ still, backend, updated]
  have shut := lawful.bridge_update (fun b => (b.shutdown env).2) s
  unfold settle close
  rw [if_neg (by simp [gone]), left, shut]
  rw [shut, shutdown_eq]
  exact gone

/-- An owner that drops a bridge shuts it down, once no dispatch is under way. -/
theorem Lawful.settle_dropped (lawful : t.Lawful) (forgets : t.Forgets) (env : Conditions)
    (dropped : t.bridge s = { b with held := false }) (idle : b.running = []) :
    (t.bridge (t.settle env s)).backend = (b.shutdown env).2.backend := by
  have gone : (t.bridge s).isAlive = false := by simp [dropped, isAlive, idle]
  rw [lawful.settle_backend forgets env gone, dropped, shutdown_backend, shutdown_backend]

/-- Dropping a bridge that has been shut down does nothing more to the system. -/
theorem Lawful.settle_shutdown (lawful : t.Lawful) (forgets : t.Forgets) (env env' : Conditions)
    (dropped : t.bridge s = { (b.shutdown env).2 with held := false }) :
    (t.bridge (t.settle env' s)).backend = (b.shutdown env).2.backend := by
  by_cases idle : (b.shutdown env).2.running = []
  · rw [lawful.settle_dropped forgets env' dropped idle, shutdown_shutdown]
  · have alive : (t.bridge s).isAlive = true := by
      simpa [dropped, isAlive] using idle
    rw [settle, if_pos alive, dropped]

/-! ## Dispatches and ends after a shutdown -/

/-- Dispatches do nothing after a shutdown. One that is still to come calls nothing, and no router
that gets the event reports success, unless a handler has been bound to its identifier since. One
that had begun before the shutdown calls nothing at all, even if a handler has been bound. -/
structure Silenced (t : Stage σ H) (env : Conditions) (b : Bridge H) : Prop where
  later : ∀ envs more e s, t.bridge s = (b.shutdown env).2.run more →
    (∀ entry ∈ (b.shutdown env).2.log more, ∀ handler,
      rebinds e.id entry ≠ some (some handler)) →
    t.called e s = [] ∧ (t.dispatch e s).1 = .returned false ∧ t.invocations envs e s = [] ∧
      ∀ r : Router Unit, (r.dispatch (fun _ => t.answer envs) e s).1 = false
  begun : ∀ more e s entered, (t.bridge s).enter e.id = some entered →
    t.bridge (t.announce e (t.update (fun _ => entered) s)) = (b.shutdown env).2.run more →
    ((b.shutdown env).2.run more).running <:+ b.running →
    t.called e s = [] ∧ (t.dispatch e s).1 = .returned false

theorem Lawful.silenced (lawful : t.Lawful) (paired : b.Paired) (tidy : b.Tidy [])
    (env : Conditions) : t.Silenced env b where
  later envs more e s reached unbound := by
    have slot : (t.bridge s).slots.get? e.id = none := by
      rw [reached]
      exact paired.slot_shutdown_run unbound
    have silent := lawful.called_of_slot_eq_none slot
    have silent' : t.invocations envs e s = [] := by
      rw [invocations_eq, silent, ite_self]
    exact ⟨silent, dispatch_of_called silent, silent', router_of_invocations silent'⟩
  begun more e s entered enters heard running := by
    have silent : t.called e s = [] := by
      refine called_of_current?_eq_none enters ?_
      rw [heard]
      exact tidy.current?_eq_none paired running
    exact ⟨silent, dispatch_of_called silent⟩

/-- Dropping a bridge leaves the system as a shutdown does, and dropping a script runtime shuts down
the bridge that it holds. -/
structure Ends (t : Stage σ H) (env : Conditions) (b : Bridge H) : Prop where
  bridge : ∀ s, t.bridge s = { b with held := false } → b.running = [] →
    (t.bridge (t.settle env s)).backend = (b.shutdown env).2.backend
  runtime : ∀ r : Script.Runtime H, r.bridge = b →
    (r.shutdown env).2.bridge = (b.shutdown env).2 ∧
      ∀ env' s, t.bridge s = { (r.shutdown env).2.bridge with held := false } →
        (t.bridge (t.settle env' s)).backend = (b.shutdown env).2.backend

theorem Lawful.ends (lawful : t.Lawful) (forgets : t.Forgets) (env : Conditions) (b : Bridge H) :
    t.Ends env b where
  bridge _ dropped idle := lawful.settle_dropped forgets env dropped idle
  runtime r ours := by
    have shut : (r.shutdown env).2.bridge = (b.shutdown env).2 :=
      congrArg (fun b => (b.shutdown env).2) ours
    refine ⟨shut, fun env' _ dropped => lawful.settle_shutdown forgets env env' ?_⟩
    rw [dropped, shut]

end Stage

namespace Bridge

open Backend

variable {H : Type} {b : Bridge H} {env : Conditions}

/-! ## Tables and cells -/

/-- A shutdown counts the live identifiers. -/
theorem shutdown_count (b : Bridge H) (env : Conditions) : (b.shutdown env).1 = b.ids.length := by
  simp [shutdown, Handles.detachAll, ids, Handles.ids, Table.keys]

/-- A shutdown counts the live identifiers and gives all of them up. The only cells left are those
that dispatches under way hold. A second shutdown does nothing. -/
structure Emptied (env : Conditions) (b : Bridge H) : Prop where
  count : (b.shutdown env).1 = b.ids.length
  handles : (b.shutdown env).2.handles.live = .empty
  slots : (b.shutdown env).2.slots = .empty
  phase : ∀ id, (b.shutdown env).2.phase id = .done .unregistered
  liveSlots : (b.shutdown env).2.liveSlots = b.inFlight.card
  again : ∀ env', (b.shutdown env).2.shutdown env' = (0, (b.shutdown env).2)

theorem Tidy.emptied (tidy : b.Tidy []) (env : Conditions) : b.Emptied env where
  count := b.shutdown_count env
  handles := congrArg Handles.live (b.shutdown_handles env)
  slots := b.shutdown_slots env
  phase := b.shutdown_phase env
  liveSlots := tidy.shutdown_liveSlots env
  again := b.shutdown_shutdown env

/-! ## Releases -/

/-- A shutdown asks for one release for each live identifier. -/
theorem detachAll_ids_perm (b : Bridge H) : (b.handles.detachAll.1.map (·.id)).Perm b.ids := by
  rw [detachAll_ids]
  exact (List.mergeSort_perm ..).symm

/-- A shutdown asks for one release for each live identifier. Of the registrations that it asks for,
the system keeps what it refuses, and it keeps all others that it has. The order in which the tables
list their entries makes no difference. -/
structure GivesBack (env : Conditions) (b : Bridge H) : Prop where
  once : (b.handles.detachAll.1.map (·.id)).Perm b.ids
  backend : (b.shutdown env).2.backend = releaseEach env b.backend b.handles.detachAll.1
  kept : ∃ s s', b.backend = .simulated s ∧ (b.shutdown env).2.backend = .simulated s' ∧
    (∀ d ∈ b.handles.detachAll.1, ∃ g ∈ s.live, g.detached = d ∧ b.Holds g) ∧
    ∀ g, g ∈ s'.live ↔ g ∈ s.live ∧
      (g.detached ∈ b.handles.detachAll.1 →
        g.detached ∈ refusedOf env b.backend b.handles.detachAll.1)
  order : ∀ b', b.Reordered b' → b'.shutdown env = b.shutdown env

theorem Backed.givesBack {s : Simulated} (backed : b.Backed s) (env : Conditions) :
    b.GivesBack env where
  once := b.detachAll_ids_perm
  backend := b.shutdown_backend env
  kept := by
    obtain ⟨s', simulated, -, stays⟩ := backed.shutdown_live env
    refine ⟨s, s', backed.backend, simulated, ?_, stays⟩
    intro d held
    obtain ⟨g, live, rfl⟩ := backed.exists_grant held
    exact ⟨g, live, rfl, holds_iff.mpr held⟩
  order _ reordered := reordered.shutdown backed.backend env

/-- A shutdown in a state that a bridge can reach, also in the middle of handlers, gives up all live
identifiers and gives their registrations back, whatever the system refuses. Every handle that has
been given out is dead from then on, whatever moves follow. Dispatches do nothing any more, and
dropping the bridge or the script runtime that holds it leaves the system as the shutdown does. -/
theorem shutdown_run (strict : Bool) (moves : List (Move H)) (env : Conditions) :
    let start : Bridge H := new (.simulated {}) strict
    let b := start.run moves
    b.Emptied env ∧ b.GivesBack env ∧
    (∀ m h, (m, .done (.handle h)) ∈ start.log moves →
      ∀ more, ((b.shutdown env).2.run more).handles.isLive h = false) ∧
    ∀ {σ : Type} (t : Stage σ H), t.Lawful → t.Silenced env b ∧ (t.Forgets → t.Ends env b) := by
  intro start b
  obtain ⟨s, backed, -⟩ := new_agrees_run (H := H) true strict moves fun _ => rfl
  have paired : b.Paired := (new_paired _ strict).run moves
  have tidy : b.Tidy [] := new_tidy_run _ strict moves
  refine ⟨tidy.emptied env, backed.givesBack env, ?_, ?_⟩
  · intro m h given more
    exact paired.isLive_shutdown_run ((new_paired _ strict).log_handle given) env more
  · intro σ t lawful
    exact ⟨lawful.silenced paired tidy env, fun forgets => lawful.ends forgets env b⟩

/-- A listener shuts the bridge down when it hears of an event. Then the handler of this very event
is not called any more. Dropping the bridge instead gives up the registration as well. -/
theorem shutdown_by_listener :
    let t : Stage (Bridge Unit) Unit :=
      { Stage.alone fun _ b => (.returned true, b) with
        notice := fun _ b => if b.isAlive then (b.shutdown {}).2 else b }
    let listeners := (({} : Listeners).subscribe).2
    let b : Bridge Unit := (new (.simulated {}) true).run
      [.registerAndBind {} none 7 { key := 65 } (), .listen listeners]
    let e : Event := ⟨7, true⟩
    b.isBound 7 = true ∧ t.called e b = [] ∧ (t.dispatch e b).1 = .returned false ∧
      (t.settle {} { b with held := false }).backend.liveCount? = some 0 := by
  intro t listeners b e
  have lawful : t.Lawful := by
    refine ⟨fun _ _ => rfl, ?_, fun _ _ b => .refl b⟩
    intro i b
    change b.Nests (if b.isAlive then (b.shutdown {}).2 else b)
    split
    · exact ⟨⟨[.shutdown {}], rfl⟩, b.take_running (m := .shutdown {}) rfl⟩
    · exact .refl b
  have forgets : t.Forgets := by
    intro i b gone
    have kept : t.notice i b = b := if_neg (Bool.eq_false_iff.mp gone)
    rw [kept]
    exact ⟨gone, rfl⟩
  obtain ⟨-, -, -, heard⟩ := shutdown_run true
    [.registerAndBind {} none 7 { key := 65 } (), .listen listeners, .enter 7,
      .listen (listeners.offer 0 e).2] {}
  obtain ⟨-, -, -, idle⟩ := shutdown_run true
    [.registerAndBind {} none 7 { key := 65 } (), .listen listeners] {}
  obtain ⟨silent, refused⟩ := (heard t lawful).1.begun [] e b _ rfl rfl (List.suffix_refl _)
  have dropped := ((idle t lawful).2 forgets).bridge { b with held := false } rfl rfl
  exact ⟨rfl, silent, refused, congrArg Backend.liveCount? dropped⟩

end Bridge

end Hotkeys
