import Hotkeys.Proofs.Bridge.Shutdown
import Hotkeys.Proofs.Script.Nested
import Hotkeys.Proofs.Script.Objects

/-!
# What objects own

An object owns the registration that its latest successful enabling has obtained, as long as the
bridge has the handle of that registration. Handles are never given out again, so what others have
registered under the identifier of an object in the meantime is safe from it.
-/

namespace Hotkeys.Script.Runtime

variable {φ : Type} {r r' : Runtime φ} {base : HotkeyId} {n : Nat} {o : HotkeyObject φ} {h : Handle}

/-! ## The handles that objects obtain -/

/-- The handle that the bridge gives out where a move enables an object. -/
def obtained (r : Runtime φ) (n : Nat) : Move φ → Option Handle
  | .enable env k =>
    if k = n then
      match r.bridge.log (r.calls (.enable env k)) with
      | [(_, .done (.handle h))] => some h
      | _ => none
    else none
  | _ => none

/-- The handle that the latest successful enabling of an object has obtained during a run. -/
def latest (r : Runtime φ) (n : Nat) : List (Move φ) → Option Handle
  | [] => none
  | m :: rest => ((r.take m).latest n rest).or (r.obtained n m)

theorem latest_concat (r : Runtime φ) (n : Nat) (moves : List (Move φ)) (m : Move φ) :
    r.latest n (moves ++ [m]) = ((r.run moves).obtained n m).or (r.latest n moves) := by
  induction moves generalizing r with
  | nil => simp [latest]
  | cons first rest ih =>
    simp only [List.cons_append, latest, run_cons, ih]
    exact Option.or_assoc

theorem obtained_of_calls_eq_nil {env : Conditions} (nothing : r.calls (.enable env n) = [])
    (k : Nat) : r.obtained k (.enable env n) = none := by
  simp [obtained, nothing, Bridge.log]

theorem obtained_other {env : Conditions} {k : Nat} (different : k ≠ n) :
    r.obtained k (.enable env n) = none := by
  simp [obtained, different.symm]

/-- An object obtains what the bridge gives out for it. -/
theorem obtained_enable {env : Conditions} (found : r.object? n = some o)
    (idle : r.isEnabled o = false) (alive : r.bridge.isAlive = true) {outcome : Outcome Handle}
    {bridge : Bridge φ}
    (took : r.bridge.registerAndBind env env.storeFault o.id o.chord o.handler =
      (outcome, bridge)) : r.obtained n (.enable env n) = some h ↔ outcome = .done h := by
  have asked := calls_enable found idle alive env
  cases outcome <;>
    simp [obtained, asked, Bridge.log, Bridge.take, Bridge.answer, took, Outcome.map]

/-! ## Objects that have given up -/

/-- An object that has been disabled is not enabled. -/
theorem callMethod_enabled_disable (r : Runtime φ) (env env' : Conditions) (n : Nat) :
    ((r.disable env n).callMethod env' .enabled n).1 = [.boolean false] := by
  have off : ((r.disable env n).object? n).any (r.disable env n).isEnabled = false := by
    cases later : (r.disable env n).object? n with
    | none => rfl
    | some o' =>
      have bare : o'.handle = none := by
        obtain ⟨member, number⟩ := object?_some later
        cases found : r.object? n with
        | none => simp [disable, found] at later
        | some o =>
          rw [disable_eq found] at member
          obtain ⟨o', -, ⟨-, rfl⟩ | ⟨other, rfl⟩⟩ := mem_updateObject.mp member
          · rfl
          · exact absurd number other
      simp [isEnabled, bare]
  simp [callMethod, off]

theorem object?_dropObject (r : Runtime φ) (env : Conditions) (n : Nat) :
    (r.dropObject env n).object? n = none := by
  cases found : r.object? n with
  | none => simp [dropObject, found]
  | some o =>
    rw [dropObject_eq found, ← (object?_some found).2]
    simp [object?, remove, List.find?_eq_none]

/-! ## Lost handles -/

/-- No object can give up the registration of the handle any more. -/
def Lost (r : Runtime φ) (h : Handle) : Prop :=
  r.bridge.isAlive = true → r.bridge.handles.Spent h

theorem enabling_of_gone (gone : r.bridge.isAlive = false) (env : Conditions)
    (o : HotkeyObject φ) : r.enabling env o = [] := by
  simp [enabling, gone]

theorem releasing_of_gone (gone : r.bridge.isAlive = false) (env : Conditions)
    (o : HotkeyObject φ) : r.releasing env o = [] := by
  unfold releasing
  split
  · rfl
  · simp [liveHandle?, gone]

/-- What is still asked of a bridge that is gone does not bring it back. -/
theorem isAlive_run_calls (gone : r.bridge.isAlive = false) (m : Move φ) :
    (r.bridge.run (r.calls m)).isAlive = false := by
  refine Eq.trans ?_ gone
  cases m with
  | create chord handler => rfl
  | enable env n =>
    cases found : r.object? n <;> simp [calls, found, enabling_of_gone gone]
  | disable env n =>
    cases found : r.object? n <;> simp [calls, found, releasing_of_gone gone]
  | drop env n =>
    cases found : r.object? n <;> simp [calls, found, releasing_of_gone gone]
  | bridge m => simp [calls, gone]
  | letGo => rfl
  | close env =>
    have asked : r.calls (.close env) = [.shutdown env] := by simp [calls, gone]
    rw [asked]
    dsimp only [Bridge.run_cons, Bridge.run_nil, Bridge.take]
    rw [Bridge.shutdown_eq]
    rfl
  | listen listeners => rfl

theorem isAlive_of_take {m : Move φ} (alive : (r.take m).bridge.isAlive = true) :
    r.bridge.isAlive = true := by
  obtain ran | ⟨-, dropped⟩ := r.take_bridge m
  · rw [ran] at alive
    by_contra gone
    have dead := isAlive_run_calls (Bool.eq_false_iff.mpr gone) m
    simp [dead] at alive
  · rw [dropped] at alive
    simp only [Bridge.isAlive, Bool.false_or] at alive
    simp [Bridge.isAlive, alive]

theorem nextSerial_le_take (paired : r.bridge.Paired) (m : Move φ) :
    r.bridge.handles.nextSerial ≤ (r.take m).bridge.handles.nextSerial := by
  obtain ran | ⟨-, dropped⟩ := r.take_bridge m
  · rw [ran]
    exact paired.nextSerial_le_run _
  · rw [dropped]

theorem Lost.take (lost : r.Lost h) (paired : r.bridge.Paired) (m : Move φ) :
    (r.take m).Lost h := by
  intro alive
  have spent := lost (isAlive_of_take alive)
  obtain ran | ⟨-, dropped⟩ := r.take_bridge m
  · rw [ran]
    exact paired.spent_handle_run spent _
  · rw [dropped]
    exact spent

/-- An object that is not enabled has lost the handle that it holds. -/
theorem lost_of_not_enabled (handle : o.handle = some h) (id : h.id = o.id)
    (given : h.serial < r.bridge.handles.nextSerial) (off : r.isEnabled o = false) : r.Lost h := by
  intro alive
  refine ⟨given, Bool.eq_false_iff.mpr fun live => ?_⟩
  have enabled : r.isEnabled o = true :=
    isEnabled_iff.mpr ⟨h, handle, liveHandle?_eq_some_iff.mpr ⟨alive, id, live⟩⟩
  simp [off] at enabled

/-- An object that has been released has lost its handle. -/
theorem lost_of_withdraw {id : HotkeyId} {backend : Backend}
    (left : r'.bridge = r.bridge.withdraw id backend) (same : h.id = id)
    (given : h.serial < r.bridge.handles.nextSerial) : r'.Lost h := by
  intro _
  rw [left, Bridge.withdraw_handles]
  refine ⟨given, Bool.eq_false_iff.mpr fun live => ?_⟩
  obtain ⟨holding, entry, -⟩ := Handles.isLive_iff.mp live
  exact (Table.get?_erase_eq_some_iff.mp entry).1 same

/-! ## What every move keeps -/

/-- An object holds the handle that it has obtained last, or has lost it. -/
structure Owned (last : Nat → Option Handle) (r : Runtime φ) : Prop where
  unborn : ∀ n, r.next ≤ n → last n = none
  given : ∀ {n h}, last n = some h → h.serial < r.bridge.handles.nextSerial
  held : ∀ o ∈ r.objects, ∀ h, o.handle = some h → last o.number = some h
  own : ∀ o ∈ r.objects, ∀ h, last o.number = some h →
    h.id = o.id ∧ (o.handle = none → r.Lost h)

namespace Owned

variable {last : Nat → Option Handle}

/-- Nothing that becomes of the bridge, and of other objects, brings a handle back. -/
theorem take_of_objects (owned : r.Owned last) (paired : r.bridge.Paired) {m : Move φ}
    (next : (r.take m).next = r.next) (objects : ∀ o ∈ (r.take m).objects, o ∈ r.objects) :
    (r.take m).Owned last where
  unborn n le := owned.unborn n (next ▸ le)
  given given := (owned.given given).trans_le (nextSerial_le_take paired m)
  held o member := owned.held o (objects o member)
  own o member h obtained := by
    obtain ⟨id, lost⟩ := owned.own o (objects o member) h obtained
    exact ⟨id, fun bare => (lost bare).take paired m⟩

theorem create (owned : r.Owned last) (chord : Chord) (handler : φ) :
    (r.take (.create chord handler)).Owned last := by
  simp only [Runtime.take, create_eq]
  cases freeId r.isTaken r.idBase with
  | none => exact owned
  | some id =>
    refine ⟨fun n le => owned.unborn n (Nat.le_of_succ_le le), owned.given, ?_, ?_⟩
    · intro o member h handle
      cases List.mem_append.mp member with
      | inl old => exact owned.held o old h handle
      | inr new =>
        cases List.mem_singleton.mp new
        cases handle
    · intro o member h obtained
      cases List.mem_append.mp member with
      | inl old => exact owned.own o old h obtained
      | inr new =>
        cases List.mem_singleton.mp new
        cases (owned.unborn _ (Nat.le_refl _)).symm.trans obtained

/-- An object that gets another handle, or none, has lost the one that it held. -/
theorem update (owned : r.Owned last) (orderly : r.Orderly base) (paired : r.bridge.Paired)
    {m : Move φ} {target : HotkeyObject φ} {v : Option Handle} {last' : Nat → Option Handle}
    (found : r.object? n = some target) (next : (r.take m).next = r.next)
    (objects : (r.take m).objects = (r.updateObject n fun o => { o with handle := v }).objects)
    (others : ∀ k, k ≠ n → last' k = last k)
    (given : ∀ h, last' n = some h →
      h.id = target.id ∧ h.serial < (r.take m).bridge.handles.nextSerial)
    (held : ∀ h, v = some h → last' n = some h)
    (lost : v = none → ∀ h, last' n = some h → (r.take m).Lost h) :
    (r.take m).Owned last' := by
  obtain ⟨member, rfl⟩ := object?_some found
  refine ⟨?_, ?_, ?_, ?_⟩
  · intro k le
    rw [next] at le
    have different : k ≠ target.number := by
      rintro rfl
      exact absurd (orderly.older _ (mem_cards member)) (Nat.not_lt.mpr le)
    rw [others k different]
    exact owned.unborn k le
  · intro k h obtained
    by_cases same : k = target.number
    · exact (given h (same ▸ obtained)).2
    · rw [others k same] at obtained
      exact (owned.given obtained).trans_le (nextSerial_le_take paired m)
  · intro o after h handle
    rw [objects] at after
    obtain ⟨o', before, ⟨number, rfl⟩ | ⟨other, rfl⟩⟩ := mem_updateObject.mp after
    · exact number ▸ held h handle
    · rw [others _ other]
      exact owned.held o before h handle
  · intro o after h obtained
    rw [objects] at after
    obtain ⟨o', before, ⟨number, rfl⟩ | ⟨other, rfl⟩⟩ := mem_updateObject.mp after
    · cases orderly.eq_of_number before member number
      exact ⟨(given h obtained).1, fun bare => lost bare h obtained⟩
    · rw [others _ other] at obtained
      obtain ⟨id, lost⟩ := owned.own o before h obtained
      exact ⟨id, fun bare => (lost bare).take paired m⟩

theorem disable (owned : r.Owned last) (orderly : r.Orderly base) (paired : r.bridge.Paired)
    (env : Conditions) (n : Nat) : (r.take (.disable env n)).Owned last := by
  cases found : r.object? n with
  | none =>
    have same : r.take (.disable env n) = r := by simp [Runtime.take, Runtime.disable, found]
    rwa [same]
  | some o =>
    obtain ⟨member, rfl⟩ := object?_some found
    have taken : r.take (.disable env o.number) = _ := disable_eq found env
    refine owned.update (v := none) orderly paired found (by rw [taken]; rfl) (by rw [taken])
      (fun _ _ => rfl) ?_ (by simp) ?_
    · intro h obtained
      exact ⟨(owned.own o member h obtained).1,
        (owned.given obtained).trans_le (nextSerial_le_take paired _)⟩
    · intro _ h obtained
      obtain ⟨id, lost⟩ := owned.own o member h obtained
      cases handle : o.handle with
      | none => exact (lost handle).take paired _
      | some h' =>
        -- the handle that the object still holds is the last one, and goes with the release
        cases (owned.held o member h' handle).symm.trans obtained
        obtain ⟨-, _, backend, _, -, -, -, released⟩ | ⟨off, -⟩ := release_cases paired env o
        · have left : (r.take (.disable env o.number)).bridge =
              r.bridge.withdraw o.id backend := by
            rw [taken, released]
          exact lost_of_withdraw left id (owned.given obtained)
        · exact (lost_of_not_enabled handle id (owned.given obtained) off).take paired _

theorem enable (owned : r.Owned last) (orderly : r.Orderly base) (paired : r.bridge.Paired)
    (env : Conditions) (n : Nat) :
    (r.take (.enable env n)).Owned fun k => (r.obtained k (.enable env n)).or (last k) := by
  obtain ⟨same, nothing⟩ |
      ⟨o, found, idle, alive, outcome, bridge, took, ⟨h, rfl, done⟩ | ⟨other, _, left⟩⟩ :=
    r.enable_cases env n
  · simp only [obtained_of_calls_eq_nil nothing, Option.none_or]
    rwa [Runtime.take, same]
  · have given : r.obtained n (.enable env n) = some h :=
      (obtained_enable found idle alive took).mpr rfl
    obtain ⟨rfl, -, os, backend, -, rfl⟩ := paired.registerAndBind_done took
    have taken : r.take (.enable env n) = _ := congrArg Prod.snd done
    refine owned.update orderly paired found (by rw [taken]; rfl) (by rw [taken]; rfl) ?_ ?_ ?_ ?_
    · intro k different
      rw [obtained_other different, Option.none_or]
    · intro h' obtained
      rw [given] at obtained
      cases obtained
      refine ⟨rfl, ?_⟩
      rw [taken]
      exact Nat.lt_succ_self _
    · rintro h' ⟨⟩
      rw [given, Option.some_or]
    · intro bare
      cases bare
  · -- a registration that has come to nothing leaves the object with the handle that it had
    have none_obtained : ∀ k, r.obtained k (.enable env n) = none := by
      intro k
      by_cases same : k = n
      · subst same
        refine Option.eq_none_iff_forall_ne_some.mpr fun h given => ?_
        exact other h ((obtained_enable found idle alive took).mp given)
      · exact obtained_other same
    have taken : r.take (.enable env n) = _ := congrArg Prod.snd left
    simp only [none_obtained, Option.none_or]
    exact owned.take_of_objects paired (by rw [taken]) (by rw [taken]; exact fun _ => id)

theorem drop (owned : r.Owned last) (paired : r.bridge.Paired) (env : Conditions) (n : Nat) :
    (r.take (.drop env n)).Owned last := by
  cases found : r.object? n with
  | none =>
    have same : r.take (.drop env n) = r := by simp [Runtime.take, dropObject, found]
    rwa [same]
  | some o =>
    have taken : r.take (.drop env n) = _ := dropObject_eq found env
    refine owned.take_of_objects paired (by rw [taken]; rfl) ?_
    rw [taken]
    exact fun _ kept => List.mem_of_mem_filter kept

/-- Each move keeps every object the owner of its latest handle alone. -/
theorem take (owned : r.Owned last) (orderly : r.Orderly base) (paired : r.bridge.Paired)
    (m : Move φ) : (r.take m).Owned fun n => (r.obtained n m).or (last n) := by
  cases m with
  | create chord handler => exact owned.create chord handler
  | enable env n => exact owned.enable orderly paired env n
  | disable env n => exact owned.disable orderly paired env n
  | drop env n => exact owned.drop paired env n
  | bridge m =>
    refine owned.take_of_objects paired ?_ ?_ <;> simp only [Runtime.take]
    · split <;> rfl
    · split <;> exact fun _ => id
  | letGo => exact owned.take_of_objects paired rfl fun _ => id
  | close env =>
    refine owned.take_of_objects paired ?_ ?_ <;> simp only [Runtime.take]
    · split <;> rfl
    · split <;> exact fun _ => id
  | listen listeners => exact owned.take_of_objects paired rfl fun _ => id

end Owned

theorem start_owned (backend : Backend) (strict : Bool) (base : HotkeyId)
    (moves : List (Move φ)) :
    ((start backend strict base).run moves).Owned
      fun n => (start backend strict base).latest n moves := by
  -- the latest enabling is at the end of a run, so the induction is on the last move
  induction moves using List.reverseRecOn with
  | nil => exact ⟨fun _ _ => rfl, nofun, nofun, nofun⟩
  | append_singleton moves m ih =>
    have taken := ih.take (start_orderly backend strict base moves)
      (start_paired backend strict base moves) m
    simpa only [latest_concat, run_append, run_cons, run_nil] using taken

/-! ## What an object gives up -/

/-- Giving up a registration is no error of the program, so a strict bridge does not abort. -/
theorem release_not_aborted (paired : r.bridge.Paired) (env : Conditions) (o : HotkeyObject φ)
    (e : Error) : (r.release env o).1 ≠ .aborted e := by
  obtain ⟨-, _, _, outcome, -, -, calm, released⟩ | ⟨-, released⟩ := release_cases paired env o
  · rw [released]
    exact calm e
  · rw [released]
    exact nofun

/-- What an object does to its bridge when it is disabled or dropped, where `last` is the handle that
its latest successful enabling has obtained. If that is the one that the bridge has for the
identifier of the object, the entry and the slot of this identifier go, and no other ones, whether or
not the system lets the registration go. In all other cases the bridge stays as it is. -/
structure GivesUp (r : Runtime φ) (o : HotkeyObject φ) (last : Option Handle) (env : Conditions) :
    Prop where
  disabled : (r.disable env o.number).bridge = (r.release env o).2
  dropped : (r.dropObject env o.number).bridge = (r.release env o).2
  calm : ∀ e, (r.release env o).1 ≠ .aborted e
  own : ∀ h, last = some h → r.liveHandle? o.id = some h →
    ∃ holding backend counter, r.bridge.handles.live.get? o.id = some holding ∧
      (r.bridge.backend.release env o.id holding.os = .ok backend ∨
        (∃ e, r.bridge.backend.release env o.id holding.os = .error e) ∧
          backend = r.bridge.backend) ∧
      (r.release env o).2 = { r.bridge with
        handles := { r.bridge.handles with live := r.bridge.handles.live.erase o.id }
        slots := r.bridge.slots.erase o.id
        backend
        counter }
  other : (∀ h, last = some h → r.liveHandle? o.id ≠ some h) → (r.release env o).2 = r.bridge
  off : ∀ env',
    ((r.disable env o.number).callMethod env' .enabled o.number).1 = [.boolean false]
  gone : (r.dropObject env o.number).object? o.number = none

namespace Owned

variable {last : Nat → Option Handle}

/-- An object is enabled if the bridge has the handle that the object has obtained last. -/
theorem isEnabled_iff (owned : r.Owned last) (member : o ∈ r.objects) :
    r.isEnabled o = true ↔ ∃ h, last o.number = some h ∧ r.liveHandle? o.id = some h := by
  rw [Runtime.isEnabled_iff]
  constructor
  · rintro ⟨h, handle, current⟩
    exact ⟨h, owned.held o member h handle, current⟩
  · rintro ⟨h, obtained, current⟩
    refine ⟨h, ?_, current⟩
    obtain ⟨alive, -, live⟩ := liveHandle?_eq_some_iff.mp current
    cases handle : o.handle with
    | none =>
      have dead := ((owned.own o member h obtained).2 handle alive).2
      simp [live] at dead
    | some h' => exact (owned.held o member h' handle).symm.trans obtained

/-- An object gives up the handle that it has got last, and no other one. -/
theorem givesUp (owned : r.Owned last) (orderly : r.Orderly base) (paired : r.bridge.Paired)
    (member : o ∈ r.objects) (env : Conditions) : r.GivesUp o (last o.number) env := by
  have found : r.object? o.number = some o := orderly.object?_eq_some_iff.mpr ⟨member, rfl⟩
  have disabled : (r.disable env o.number).bridge = (r.release env o).2 := by
    rw [disable_eq found]
  refine ⟨disabled, (r.dropObject_bridge env o.number).trans disabled,
    release_not_aborted paired env o, ?_, ?_,
    fun env' => r.callMethod_enabled_disable env env' o.number, r.object?_dropObject env o.number⟩
  · intro h obtained current
    have on : r.isEnabled o = true := (owned.isEnabled_iff member).mpr ⟨h, obtained, current⟩
    obtain ⟨-, holding, backend, _, entry, answer, -, released⟩ | ⟨off, -⟩ :=
      release_cases paired env o
    · have left : (r.release env o).2 = r.bridge.withdraw o.id backend :=
        congrArg Prod.snd released
      exact ⟨holding, backend, _, entry, answer, left.trans (Bridge.withdraw_eq ..)⟩
    · simp [on] at off
  · intro other
    obtain ⟨on, -⟩ | ⟨-, released⟩ := release_cases paired env o
    · obtain ⟨h, obtained, current⟩ := (owned.isEnabled_iff member).mp on
      exact absurd current (other h obtained)
    · exact congrArg Prod.snd released

end Owned

theorem start_givesUp (backend : Backend) (strict : Bool) (base : HotkeyId) (moves : List (Move φ)) :
    ∀ o ∈ ((start backend strict base).run moves).objects, ∀ env,
      ((start backend strict base).run moves).GivesUp o
        ((start backend strict base).latest o.number moves) env :=
  fun _ member env => (start_owned backend strict base moves).givesUp
    (start_orderly backend strict base moves) (start_paired backend strict base moves) member env

/-- In every state that a runtime can reach, and in whatever scripts, events and handlers make of
it, an object that is disabled or dropped gives up what its own latest enabling has obtained, and
nothing else. -/
theorem ownership_run (backend : Backend) (strict : Bool) (base : HotkeyId)
    (moves : List (Move φ)) :
    let first := start backend strict base
    let r := first.run moves
    (∀ o ∈ r.objects, ∀ env, r.GivesUp o (first.latest o.number moves) env) ∧
    ∀ more r', r.Leads (fun _ => true) more r' →
      ∀ o ∈ r'.objects, ∀ env, r'.GivesUp o (first.latest o.number (moves ++ more)) env := by
  intro first r
  refine ⟨start_givesUp backend strict base moves, fun more r' leads => ?_⟩
  rw [leads.run, ← run_append]
  exact start_givesUp backend strict base (moves ++ more)

/-- The host takes the registration of an object away and registers the identifier for itself. The
object does not touch that registration when it is disabled, even though it still has a handle. -/
theorem ownership_run_stale :
    let moves : List (Move Unit) :=
      [.create { key := 65 } (), .enable {} 1, .bridge (.unregister {} 1000),
        .bridge (.register {} 1000 { key := 66 })]
    let r := (start (.simulated {}) true 1000).run moves
    ∃ o ∈ r.objects, o.handle = some ⟨1000, 1⟩ ∧ r.bridge.handle? 1000 = some ⟨1000, 2⟩ ∧
      (r.disable {} 1).bridge = r.bridge := by
  intro moves r
  let o : HotkeyObject Unit :=
    { number := 1, id := 1000, chord := { key := 65 }, handler := (), handle := some ⟨1000, 1⟩ }
  have member : o ∈ r.objects := List.mem_singleton.mpr rfl
  have stale := (ownership_run (.simulated {}) true 1000 moves).1 o member {}
  refine ⟨o, member, rfl, rfl, stale.disabled.trans (stale.other ?_)⟩
  rintro h ⟨⟩
  exact nofun

end Hotkeys.Script.Runtime
