import Hotkeys.Proofs.Bridge.Rollback
import Hotkeys.Proofs.Bridge.System
import Hotkeys.Proofs.Script.Nested
import Hotkeys.Proofs.Script.Objects
import Hotkeys.Script.Interpreter

/-!
# Identifiers are reserved for objects

In every state that a runtime can reach, the reserved identifiers are those of the objects that
exist, and no two objects share one. A call that fails to make an object leaves no trace of it.
-/

namespace Hotkeys.Script.Runtime

variable {φ : Type} {r : Runtime φ} {base : HotkeyId}

/-- Whether the backend refuses a release that a call of the library asks for. -/
def refusesCall (r : Runtime φ) (items : Nat → List (Value φ)) (env : Conditions) (f : Function)
    (args : List (Value φ)) : Bool :=
  match f, r.createFrom items args with
  | .bind, .ok (n, r) => r.refusesIn [.enable env n]
  | _, _ => false

/-- A new object that is dropped at once leaves no trace but in the bridge. -/
theorem Orderly.undo (orderly : r.Orderly base) {id : HotkeyId}
    (found : freeId r.isTaken base = some id) (chord : Chord) (handler : φ) (bridge : Bridge φ)
    (env : Conditions) :
    ({ r.insert id chord handler with bridge } : Runtime φ).dropObject env r.next =
      { r with bridge, next := r.next + 1 } := by
  have new : ({ r.insert id chord handler with bridge } : Runtime φ).object? r.next =
      some { number := r.next, id, chord, handler } := orderly.object?_insert found chord handler
  have older : ∀ o ∈ r.objects, o.number ≠ r.next := fun o member =>
    Nat.ne_of_lt (orderly.older _ (mem_cards member))
  have fresh : ∀ other ∈ r.reserved, other ≠ id := by
    rintro other reserved rfl
    obtain ⟨-, free, -⟩ := freeId_eq_some_iff.mp found
    simp [isTaken, reserved] at free
  have objects : ∀ o : HotkeyObject φ, o.number = r.next →
      (r.objects ++ [o]).filter (fun o => o.number != r.next) = r.objects := by
    intro o last
    rw [List.filter_append, List.filter_eq_self.mpr fun o member => by simpa using older o member]
    simp [last]
  have reserved : (id :: r.reserved).filter (· != id) = r.reserved := by
    simpa [List.filter_eq_self] using fresh
  rw [dropObject_eq new]
  simp only [release, Runtime.remove, Runtime.insert, reserved]
  rw [objects _ rfl]

/-- Enabling that fails leaves the objects alone. -/
theorem enable_error (paired : r.bridge.Paired) {wanted : Chord → Prop} {env : Conditions} {n : Nat}
    (asked : ∀ o, r.object? n = some o → wanted o.chord) {message : String} {r' : Runtime φ}
    (failed : r.enable env n = (.error message, r')) :
    ∃ bridge, r' = { r with bridge } ∧
      r.bridge.Undone wanted env (r.refusesIn [.enable env n]) bridge := by
  obtain ⟨same, -⟩ |
      ⟨o, found, idle, alive, outcome, bridge, took, ⟨h, -, done⟩ | ⟨other, _, left⟩⟩ :=
    r.enable_cases env n
  · rw [failed] at same
    exact ⟨r.bridge, same, .untouched⟩
  · cases failed.symm.trans done
  · cases failed.symm.trans left
    refine ⟨bridge, rfl, ?_⟩
    have refuses : r.refusesIn [.enable env n] =
        r.bridge.refuses (.registerAndBind env env.storeFault o.id o.chord o.handler) := by
      simp [refusesIn, calls_enable found idle alive, Bridge.refusesIn]
    rw [refuses]
    refine (paired.registerAndBind_undone took other).mono ?_
    rintro chord rfl
    exact asked o found

/-- The arguments of a call name the combination. -/
def Named (items : Nat → List (Value φ)) (args : List (Value φ)) (chord : Chord) : Prop :=
  ∃ handler, requested items args = .ok (chord, handler)

/-- A call that fails changes nothing but what is left of a registration that it has tried. -/
theorem call_error (orderly : r.Orderly base) (paired : r.bridge.Paired)
    {items : Nat → List (Value φ)} {env : Conditions} {f : Function} {args : List (Value φ)}
    {e : Exception} (failed : (r.call items env f args).1 = .error e) :
    ∃ bridge next, (r.call items env f args).2 = { r with bridge, next } ∧
      r.bridge.Undone (Named items args) env (r.refusesCall items env f args) bridge := by
  have unchanged : ∀ refused, ∃ bridge next, r = { r with bridge, next } ∧
      r.bridge.Undone (Named items args) env refused bridge :=
    fun _ => ⟨r.bridge, r.next, rfl, .untouched⟩
  cases f with
  | new =>
    simp only [call] at failed ⊢
    cases made : r.createFrom items args with
    | error e => exact unchanged _
    | ok created => simp [made] at failed
  | bind =>
    cases made : r.createFrom items args with
    | error e => simpa only [call, made] using unchanged _
    | ok created =>
      obtain ⟨n, r₁⟩ := created
      obtain ⟨rfl, id, chord, handler, named, found, rfl⟩ := createFrom_eq_ok_iff.mp made
      simp only [call, refusesCall, made] at failed ⊢
      cases enabled : (r.insert id chord handler).enable env r.next with
      | mk result r₂ =>
        cases result with
        | ok _ => simp [enabled] at failed
        | error message =>
          rw [orderly.idBase] at found
          have asked : ∀ o, (r.insert id chord handler).object? r.next = some o →
              Named items args o.chord := by
            intro o is
            rw [orderly.object?_insert found chord handler] at is
            cases is
            exact ⟨handler, named⟩
          obtain ⟨bridge, rfl, undone⟩ :=
            enable_error (r := r.insert id chord handler) paired asked enabled
          exact ⟨bridge, r.next + 1, orderly.undo found chord handler bridge env, undone⟩
  | keycode => exact unchanged _
  | ids => exact unchanged _

/-- Two objects are equal for scripts if they are the same one. -/
theorem Orderly.equal_iff {r : Runtime (Callable φ)} (orderly : r.Orderly base)
    {i : Interpreter φ} (same : i.runtime = r) (numbers : Int → Float → Bool)
    {o o' : HotkeyObject (Callable φ)} (member : o ∈ r.objects) (member' : o' ∈ r.objects) :
    i.equal numbers (.hotkey o.number) (.hotkey o'.number) = true ↔ o = o' := by
  have id : r.idOf o.number = some o.id := by
    rw [idOf, orderly.object?_eq_some_iff.mpr ⟨member, rfl⟩]
    rfl
  have id' : r.idOf o'.number = some o'.id := by
    rw [idOf, orderly.object?_eq_some_iff.mpr ⟨member', rfl⟩]
    rfl
  simp only [Interpreter.equal, Value.equal, same, id, id', Option.isSome_some, Bool.true_and,
    Bool.or_eq_true, beq_iff_eq, Option.some.injEq]
  constructor
  · rintro (number | id)
    · exact orderly.eq_of_number member member' number
    · exact orderly.eq_of_id member member' id
  · rintro rfl
    exact .inl rfl

/-! ## What a failed call leaves -/

/-- What a system has once a wanted combination has been registered for nothing and released again.
One that lets a combination be registered a second time has lost the first registration. -/
structure Restored (kind : Backend.Kind) (wanted : Chord → Prop) (before after : Backend) :
    Prop where
  simulated : kind ≠ .portable → ∃ s s', before = .simulated s ∧ after = .simulated s' ∧
    s'.live = s.live
  portable : ∀ p, before = .portable p → ∃ p', after = .portable p' ∧
    ∀ c, (wanted c → p.get? c = none) → p'.get? c = p.get? c

theorem Restored.refl {kind : Backend.Kind} {backend : Backend}
    (simulated : kind ≠ .portable → ∃ s, backend = .simulated s) (wanted : Chord → Prop) :
    Restored kind wanted backend backend where
  simulated played := by
    obtain ⟨s, same⟩ := simulated played
    exact ⟨s, s, same, same, rfl⟩
  portable p same := ⟨p, same, fun _ _ => rfl⟩

/-- A registration that is released at once. -/
theorem Restored.of_register_release {kind : Backend.Kind} {wanted : Chord → Prop} {env : Conditions}
    {id : HotkeyId} {chord : Chord} {os : OsHandle} {backend granted after : Backend}
    (simulated : kind ≠ .portable → ∃ s, backend = .simulated s ∧ s.Numbered)
    (asked : wanted chord) (accepted : backend.register env id chord = .ok (os, granted))
    (released : granted.release env id os = .ok after) : Restored kind wanted backend after where
  simulated played := by
    obtain ⟨s, rfl, numbered⟩ := simulated played
    obtain ⟨s', gone, live⟩ := Backend.live_of_register_release numbered accepted released
    exact ⟨s, s', rfl, gone, live⟩
  portable p portable := by
    subst portable
    obtain ⟨p', gone, entries⟩ := Backend.get?_of_register_release accepted released
    refine ⟨p', gone, fun c free => ?_⟩
    rw [entries]
    split
    · rename_i own
      exact (free (own ▸ asked)).symm
    · rfl

/-- What is left of a runtime when a call has failed: all but the counters and the system, and these
too unless the store has refused a handler. -/
def Spared (kind : Backend.Kind) (items : Nat → List (Value φ)) (env : Conditions) (f : Function)
    (args : List (Value φ)) (r : Runtime φ) : Prop :=
  ∃ backend serial next,
    (r.call items env f args).2 = { r with
      bridge := { r.bridge with
        backend, handles := { r.bridge.handles with nextSerial := serial } }
      next } ∧
    (env.storeFault = none → backend = r.bridge.backend ∧ serial = r.bridge.handles.nextSerial) ∧
    (r.refusesCall items env f args = false →
      Restored kind (Named items args) r.bridge.backend backend)

/-- A call that fails is as if it had not been made, apart from counters. -/
theorem spared_of_error {kind : Backend.Kind} (orderly : r.Orderly base) (paired : r.bridge.Paired)
    (simulated : kind ≠ .portable → ∃ s, r.bridge.backend = .simulated s ∧ s.Numbered)
    {items : Nat → List (Value φ)} {env : Conditions} {f : Function} {args : List (Value φ)}
    {e : Exception} (failed : (r.call items env f args).1 = .error e) :
    r.Spared kind items env f args := by
  obtain ⟨bridge, next, left, undone⟩ := call_error orderly paired failed
  cases undone with
  | untouched =>
    refine ⟨_, r.bridge.handles.nextSerial, next, left, fun _ => ⟨rfl, rfl⟩, fun _ => ?_⟩
    exact .refl (fun played => (simulated played).imp fun _ => And.left) _
  | rolledBack asked fault accepted released =>
    refine ⟨_, _, next, left, fun taken => ?_, fun unrefused => ?_⟩
    · simp [taken] at fault
    · exact .of_register_release simulated asked accepted (released unrefused)

/-! ## Runs -/

theorem start_numbered {kind : Backend.Kind} (played : kind ≠ .portable) (strict : Bool)
    (base : HotkeyId) (moves : List (Move φ)) :
    ∃ s, ((start (.ofKind kind) strict base).run moves).bridge.backend = .simulated s ∧
      s.Numbered := by
  obtain ⟨s, backed, -⟩ := start_agrees played strict base moves true fun _ => rfl
  exact ⟨s, backed.backend, backed.numbered⟩

/-- The objects that exist have identifiers of their own from the base on, and those are the ones
that are reserved. So two objects are equal for scripts only if they are the same one. A call that
fails leaves the objects, the reserved identifiers, and what the bridge has as they were. -/
structure Reserved (kind : Backend.Kind) (base : HotkeyId) (r : Runtime (Callable φ)) : Prop where
  apart : (r.objects.map (·.id)).Nodup
  above : ∀ o ∈ r.objects, base ≤ o.id
  perm : r.reserved.Perm (r.objects.map (·.id))
  count : r.reserved.length = r.objects.length
  failed : ∀ items env f args e, (r.call items env f args).1 = .error e →
    r.Spared kind items env f args
  equal : ∀ (i : Interpreter φ) (numbers : Int → Float → Bool), i.runtime = r →
    ∀ o ∈ r.objects, ∀ o' ∈ r.objects,
      (i.equal numbers (.hotkey o.number) (.hotkey o'.number) = true ↔ o = o')

theorem start_reserved (kind : Backend.Kind) (strict : Bool) (base : HotkeyId)
    (moves : List (Move (Callable φ))) :
    ((start (.ofKind kind) strict base).run moves).Reserved kind base := by
  have orderly := start_orderly (φ := Callable φ) (.ofKind kind) strict base moves
  have paired := start_paired (φ := Callable φ) (.ofKind kind) strict base moves
  generalize reached : (start (.ofKind kind) strict base).run moves = r at orderly paired
  have simulated : kind ≠ .portable → ∃ s, r.bridge.backend = .simulated s ∧ s.Numbered :=
    fun played => reached ▸ start_numbered played strict base moves
  have ids : r.cards.map Prod.snd = r.objects.map (·.id) := by simp [cards]
  have perm : r.reserved.Perm (r.objects.map (·.id)) := ids ▸ orderly.reserved
  constructor
  · exact ids ▸ orderly.ids
  · exact fun o member => orderly.above _ (mem_cards member)
  · exact perm
  · exact perm.length_eq.trans (List.length_map _)
  · exact fun _ _ _ _ _ failed => spared_of_error orderly paired simulated failed
  · exact fun _ numbers same _ member _ member' => orderly.equal_iff same numbers member member'

/-- In every state that a runtime can reach, and in whatever scripts, events and handlers make of
it, the identifiers that are reserved are those of the objects, and a call that fails makes no
difference to them. -/
theorem objects_run (kind : Backend.Kind) (strict : Bool) (base : HotkeyId)
    (moves : List (Move (Callable φ))) :
    let r := (start (.ofKind kind) strict base).run moves
    r.Reserved kind base ∧
    ∀ more r', r.Leads (fun _ => true) more r' → r'.Reserved kind base := by
  intro r
  refine ⟨start_reserved kind strict base moves, fun more r' leads => ?_⟩
  rw [leads.run, ← run_append]
  exact start_reserved kind strict base (moves ++ more)

/-- The store refuses the handler of a hotkey that a script binds, and nothing is left of the call. -/
theorem objects_run_refused :
    let env : Conditions := { storeFault := some "full" }
    let args : List (Value (Callable Unit)) := [.string "a", .nil, .function (.host ())]
    let r := (start (.ofKind .simulated) true 1000).run []
    let r' := (r.call (fun _ => []) env .bind args).2
    r'.objects = [] ∧ r'.reserved = [] ∧ r'.bridge.backend.liveCount? = some 0 := by
  intro env args r r'
  obtain ⟨reserved, -⟩ := objects_run .simulated true 1000 ([] : List (Move (Callable Unit)))
  obtain ⟨backend, serial, next, left, -, restored⟩ := reserved.failed (fun _ => []) env .bind args
    (.runtime "Failed to store handler for hotkey 1000: full") rfl
  obtain ⟨s, s', before, now, live⟩ := (restored (by decide +kernel)).simulated nofun
  have fresh : s = {} := Backend.simulated.inj before.symm
  rw [show r' = _ from left]
  refine ⟨rfl, rfl, ?_⟩
  rw [now]
  exact congrArg (fun live => some live.length) (live.trans (congrArg Backend.Simulated.live fresh))

end Hotkeys.Script.Runtime
