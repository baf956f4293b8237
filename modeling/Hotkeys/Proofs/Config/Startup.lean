import Hotkeys.Cli
import Hotkeys.Proofs.Backend.Admission
import Hotkeys.Proofs.Bridge.Lifecycle
import Hotkeys.Proofs.Config.Validation
import Hotkeys.Proofs.Script.Reservations

/-!
# Configured hotkeys at the start of the program

The program registers its configured hotkeys one after the other and goes on after a failure. On a
backend that nobody else uses, a validated configuration meets none of the conflicts that the
bridge and the backend look for: only a key that the backend does not know can fail. Scripts get
their identifiers from a range of their own, so they never get one of a configured hotkey.

## Implementation notes

`Loaded` is the invariant of the loop. It says what the bridge has after some of the bindings,
and nothing in it depends on the order in which they have come.
-/

namespace Hotkeys

namespace Bridge

variable {H : Type} {b : Bridge H} {first : Backend} {loaded bindings : List Binding}

/-- What a configured hotkey asks of the bridge. -/
def Move.ofBinding (x : Binding) : Move H := .register {} x.id x.chord

/-- What each of the bindings comes to, when they are registered in their order. -/
def outcomes (b : Bridge H) (bindings : List Binding) : List (Outcome Answer) :=
  (b.log (bindings.map .ofBinding)).map Prod.snd

/-- The outcome of a binding that meets nothing but the backend's opinion of its key. -/
def Expected (first : Backend) (x : Binding) (o : Outcome Answer) : Prop :=
  if first.admits x.chord then ∃ serial, o = .done (.handle ⟨x.id, serial⟩)
  else o = .failed (.registration x.chord.text (first.complaint x.chord))

/-- An outcome that is expected is not about something that is taken. -/
theorem Expected.no_conflict {x : Binding} {o : Outcome Answer} (expected : Expected first x o) :
    (∀ id, o ≠ .failed (.duplicateIdentifier id)) ∧
      ∀ keys, o ≠ .failed (.registration keys "key combination is already bound") := by
  unfold Expected at expected
  split at expected
  · obtain ⟨serial, rfl⟩ := expected
    exact ⟨nofun, nofun⟩
  · subst expected
    refine ⟨nofun, fun keys same => ?_⟩
    injection same with same
    injection same with _ reason
    exact first.complaint_ne x.chord reason

theorem no_conflicts {outcomes : List (Outcome Answer)}
    (expected : List.Forall₂ (Expected first) bindings outcomes) :
    ∀ o ∈ outcomes, (∀ id, o ≠ .failed (.duplicateIdentifier id)) ∧
      ∀ keys, o ≠ .failed (.registration keys "key combination is already bound") := by
  induction expected with
  | nil => exact nofun
  | cons expected _ ih => exact List.forall_mem_cons.mpr ⟨expected.no_conflict, ih⟩

/-- What a bridge has once some bindings have been registered on a fresh backend. -/
structure Loaded (first : Backend) (loaded : List Binding) (b : Bridge H) : Prop where
  unbound : ∀ id, b.slots.get? id = none
  admits : b.backend.admits = first.admits
  complaint : b.backend.complaint = first.complaint
  taken : ∀ chord, b.backend.isBound chord = true → ∃ x ∈ loaded, x.chord = chord
  owners : ∀ id chord, b.chord? id = some chord ↔
    ∃ x ∈ loaded, x.id = id ∧ x.chord = chord ∧ first.admits chord = true

namespace Loaded

theorem new (kind : Backend.Kind) (strict : Bool) :
    (new (.ofKind kind) strict : Bridge H).Loaded (.ofKind kind) [] := by
  refine ⟨fun _ => rfl, rfl, rfl, fun chord bound => ?_, fun id chord => by
    simp [Bridge.new, chord?, Handles.chord?, Table.get?]⟩
  cases kind <;> cases bound

theorem paired (l : b.Loaded first loaded) : b.Paired := by
  intro id bound
  simp [isBound, Table.contains, l.unbound id] at bound

theorem phase (l : b.Loaded first loaded) (id : HotkeyId) :
    b.phase id = .done (if (b.chord? id).isSome then .registered else .unregistered) := by
  have slot := l.unbound id
  have lives := l.paired.lives id
  rw [lives.phase, lives.chord?]
  generalize b.life id = life at lives ⊢
  cases lives with
  | unregistered entry _ => rfl
  | registered entry _ => rfl
  | bound entry held => cases slot.symm.trans held

/-- A binding that repeats nothing is registered if the backend knows its key. -/
theorem register (l : b.Loaded first loaded) {x : Binding} (newId : ∀ y ∈ loaded, y.id ≠ x.id)
    (newChord : ∀ y ∈ loaded, y.chord ≠ x.chord) :
    Expected first x (b.take (.ofBinding x)).1 ∧
      (b.take (.ofBinding x)).2.Loaded first (loaded ++ [x]) := by
  have free : b.isRegistered x.id = false := by
    refine Bool.eq_false_iff.mpr fun registered => ?_
    obtain ⟨holding, entry⟩ := isRegistered_iff.mp registered
    have owner : b.chord? x.id = some holding.chord := congrArg (Option.map _) entry
    obtain ⟨y, member, same, -⟩ := (l.owners _ _).mp owner
    exact newId y member same
  have vacant : b.backend.isBound x.chord = false := by
    refine Bool.eq_false_iff.mpr fun bound => ?_
    obtain ⟨y, member, same⟩ := l.taken _ bound
    exact newChord y member same
  have answer := Backend.register_vacant Conditions.accepting_default vacant x.id
  rw [l.admits, l.complaint] at answer
  -- of the bindings so far and the new one, only the new one is not in the table yet
  have grown : ∀ id chord,
      (∃ y ∈ loaded ++ [x], y.id = id ∧ y.chord = chord ∧ first.admits chord = true) ↔
        b.chord? id = some chord ∨
          x.id = id ∧ x.chord = chord ∧ first.admits chord = true := by
    intro id chord
    rw [l.owners]
    simp only [List.mem_append, List.mem_singleton, or_and_right, exists_or, exists_eq_left]
  have taken : ∀ chord, b.backend.isBound chord = true →
      ∃ y ∈ loaded ++ [x], y.chord = chord := by
    intro chord bound
    obtain ⟨y, member, same⟩ := l.taken chord bound
    exact ⟨y, List.mem_append_left _ member, same⟩
  simp only [Expected, Move.ofBinding, Bridge.take, Bridge.answer, l.paired.register_eq, free]
  by_cases admitted : first.admits x.chord = true
  · rw [if_pos admitted] at answer
    obtain ⟨os, backend, answer, admits, complaint, bound⟩ := answer
    simp only [admitted, answer, if_true, Bool.false_eq_true, if_false]
    refine ⟨⟨_, rfl⟩, l.unbound, admits, complaint, ?_, ?_⟩
    · intro chord now
      obtain rfl | before := (bound chord).mp now
      · exact ⟨x, List.mem_append_right _ List.mem_cons_self, rfl⟩
      · exact taken chord before
    · intro id chord
      rw [grown, enroll_chord?]
      by_cases own : id = x.id
      · subst own
        have none : b.chord? x.id ≠ some chord := fun owner => by
          obtain ⟨y, member, same, -⟩ := (l.owners _ _).mp owner
          exact newId y member same
        simp only [if_true, Option.some.injEq, none, false_or, true_and]
        refine ⟨?_, And.left⟩
        rintro rfl
        exact ⟨rfl, admitted⟩
      · simp [own, Ne.symm own]
  · rw [if_neg admitted] at answer
    simp only [admitted, answer, if_false, Bool.false_eq_true]
    refine ⟨rfl, l.unbound, l.admits, l.complaint, taken, ?_⟩
    intro id chord
    rw [grown]
    refine ⟨.inl, ?_⟩
    rintro (before | ⟨-, rfl, admits⟩)
    · exact before
    · exact absurd admits admitted

/-- The loop over the bindings, none of which repeats another one. -/
theorem run (l : b.Loaded first loaded) (ids : ((loaded ++ bindings).map (·.id)).Nodup)
    (chords : ((loaded ++ bindings).map (·.chord)).Nodup) :
    List.Forall₂ (Expected first) bindings (b.outcomes bindings) ∧
      (b.run (bindings.map .ofBinding)).Loaded first (loaded ++ bindings) := by
  induction bindings generalizing b loaded with
  | nil => exact ⟨.nil, by simpa using l⟩
  | cons x rest ih =>
    have new : ∀ y ∈ loaded, y.id ≠ x.id ∧ y.chord ≠ x.chord := by
      intro y member
      rw [List.map_append, List.nodup_append] at ids chords
      exact ⟨ids.2.2 _ (List.mem_map_of_mem member) _ List.mem_cons_self,
        chords.2.2 _ (List.mem_map_of_mem member) _ List.mem_cons_self⟩
    obtain ⟨expected, next⟩ := l.register (fun y member => (new y member).1)
      fun y member => (new y member).2
    rw [List.append_cons] at ids chords
    obtain ⟨others, loaded'⟩ := ih next ids chords
    rw [← List.append_cons] at loaded'
    exact ⟨.cons expected others, loaded'⟩

end Loaded

end Bridge

/-! ## Identifiers for scripts -/

namespace Script.Runtime

variable {φ : Type} {r : Runtime φ} {base : HotkeyId}

/-- Scripts get identifiers from the base on. -/
theorem Orderly.allocate (orderly : r.Orderly base) {id : HotkeyId} {r' : Runtime φ}
    (allocated : r.allocate = .ok (id, r')) : base ≤ id := by
  unfold Runtime.allocate at allocated
  rw [orderly.idBase] at allocated
  cases found : freeId r.isTaken base with
  | none => simp [found] at allocated
  | some least =>
    simp only [found] at allocated
    cases allocated
    exact (freeId_eq_some_iff.mp found).1

/-- Enabling an object leaves the identifiers of all objects as they are. -/
theorem cards_enable (r : Runtime φ) (env : Conditions) (n : Nat) :
    (r.enable env n).2.cards = r.cards := by
  obtain ⟨same, -⟩ | ⟨_, -, -, -, _, bridge, -, ⟨h, -, done⟩ | ⟨-, _, failed⟩⟩ :=
    r.enable_cases env n
  · rw [same]
  · rw [done]
    exact cards_updateObject { r with bridge } n (some h)
  · rw [failed]
    rfl

/-- A new object has the identifier that has been allocated for it. -/
theorem card_of_createFrom {items : Nat → List (Value φ)} {args : List (Value φ)} {n : Nat}
    {r₁ : Runtime φ} (created : r.createFrom items args = .ok (n, r₁)) :
    ∃ id r', r.allocate = .ok (id, r') ∧ (n, id) ∈ r₁.cards := by
  obtain ⟨rfl, id, chord, handler, -, found, rfl⟩ := createFrom_eq_ok_iff.mp created
  refine ⟨id, { r with reserved := id :: r.reserved }, ?_, ?_⟩
  · simp only [Runtime.allocate, found]
  · simp [cards, Runtime.insert]

/-- A call that makes an object gives it the identifier that has been allocated for it. -/
theorem card_of_call {items : Nat → List (Value φ)} {env : Conditions} {f : Function}
    {args : List (Value φ)} {n : Nat}
    (made : (r.call items env f args).1 = .ok (.value (.hotkey n))) :
    ∃ id r', r.allocate = .ok (id, r') ∧ (n, id) ∈ (r.call items env f args).2.cards := by
  cases f with
  | new =>
    simp only [call] at made ⊢
    cases created : r.createFrom items args with
    | error e => simp [created] at made
    | ok object =>
      simp only [created] at made
      cases made
      exact card_of_createFrom created
  | bind =>
    simp only [call] at made ⊢
    cases created : r.createFrom items args with
    | error e => simp [created] at made
    | ok object =>
      obtain ⟨m, r₁⟩ := object
      obtain ⟨id, r', allocated, card⟩ := card_of_createFrom created
      simp only [created] at made ⊢
      have kept := r₁.cards_enable env m
      cases enabled : r₁.enable env m with
      | mk result r₂ =>
        rw [enabled] at kept made
        cases result with
        | error message => simp at made
        | ok =>
          cases made
          exact ⟨id, r', allocated, kept ▸ card⟩
  | keycode =>
    simp only [call] at made
    cases text : (argument args 1).toText (some 1) with
    | error e => simp [text, Except.map] at made
    | ok name =>
      cases code : KeyCode.named? name.toList <;> simp [text, code, Except.map] at made
  | ids => simp [call] at made

/-- An object is found by its number, with its identifier. -/
theorem Orderly.idOf_eq_some (orderly : r.Orderly base) {n : Nat} {id : HotkeyId}
    (card : (n, id) ∈ r.cards) : r.idOf n = some id := by
  obtain ⟨o, member, same⟩ := List.mem_map.mp card
  obtain ⟨rfl, rfl⟩ := Prod.mk.inj same
  rw [idOf, orderly.object?_eq_some_iff.mpr ⟨member, rfl⟩]
  rfl

/-- In every state from some point on, the identifiers of objects begin at the base. -/
theorem Orderly.later (orderly : r.Orderly base) (moves : List (Move φ)) :
    (r.run moves).Orderly base :=
  run_keeps (fun _ m orderly => orderly.take m) orderly moves

end Script.Runtime

/-! ## The start -/

namespace Cli

open Bridge
open Script.Runtime (start_orderly mem_cards card_of_call)

variable {H φ : Type}

/-- The loop over the bindings is a run of registrations. -/
theorem registerAll_runtime (r : Runtime) (bindings : List Binding) :
    (registerAll r bindings).1 = { r with bridge := r.bridge.run (bindings.map .ofBinding) } := by
  induction bindings generalizing r with
  | nil => rfl
  | cons x rest ih =>
    simp only [registerAll, ih, List.map_cons, run_cons]
    rfl

/-- The log has a warning for each binding that has not been registered. -/
theorem registerAll_levels (r : Runtime) (bindings : List Binding) :
    (registerAll r bindings).2.map (·.level) =
      (r.bridge.outcomes bindings).map fun o => o.error?.elim .info fun _ => .warn := by
  induction bindings generalizing r with
  | nil => rfl
  | cons x rest ih =>
    simp only [registerAll, outcomes, List.map_cons, log] at ih ⊢
    rw [ih]
    refine congrArg₂ List.cons ?_ rfl
    simp only [Move.ofBinding, Bridge.take, answer]
    cases (r.bridge.register {} x.id x.chord).1 <;> rfl

/-- There is a warning for each binding whose key the backend does not know. -/
theorem levels_of_expected {first : Backend} {bindings : List Binding}
    {outcomes : List (Outcome Answer)}
    (expected : List.Forall₂ (Expected first) bindings outcomes) :
    (outcomes.map fun o => o.error?.elim Log.Level.info fun _ => .warn) =
      bindings.map fun x => if first.admits x.chord then .info else .warn := by
  induction expected with
  | nil => rfl
  | @cons x o rest others expected _ ih =>
    rw [List.map_cons, List.map_cons, ih]
    refine congrArg₂ List.cons ?_ rfl
    unfold Expected at expected
    by_cases admitted : first.admits x.chord = true
    · rw [if_pos admitted] at expected ⊢
      obtain ⟨serial, rfl⟩ := expected
      rfl
    · rw [if_neg admitted] at expected ⊢
      subst expected
      rfl

/-! ## The bindings -/

/-- What the loop over the bindings comes to. A binding is registered exactly if the backend knows its
key. A failure is never about an identifier or a combination that is taken, and the log has a warning
for it. -/
structure Registers (first : Backend) (start : Runtime) (bindings : List Binding) : Prop where
  outcomes : List.Forall₂ (Expected first) bindings (start.bridge.outcomes bindings)
  no_conflict : ∀ o ∈ start.bridge.outcomes bindings,
    (∀ id, o ≠ .failed (.duplicateIdentifier id)) ∧
      ∀ keys, o ≠ .failed (.registration keys "key combination is already bound")
  levels : (registerAll start bindings).2.map (·.level) =
    bindings.map fun x => if first.admits x.chord then .info else .warn
  bridge : (registerAll start bindings).1.bridge = start.bridge.run (bindings.map .ofBinding)

theorem registers_of_expected {first : Backend} {start : Runtime} {bindings : List Binding}
    (expected : List.Forall₂ (Expected first) bindings (start.bridge.outcomes bindings)) :
    Registers first start bindings where
  outcomes := expected
  no_conflict := no_conflicts expected
  levels := by rw [registerAll_levels, levels_of_expected expected]
  bridge := by rw [registerAll_runtime]

/-- The bridge has the bindings of the configuration that the backend admits and nothing else, and
none of them is bound. -/
structure Installed (c : Config) (first : Backend) (b : Bridge H) : Prop where
  owners : ∀ id chord, b.chord? id = some chord ↔
    ∃ x ∈ c.hotkeys.list, x.id = id ∧ x.chord = chord ∧ first.admits chord = true
  phase : ∀ id, b.phase id =
    .done (if (b.chord? id).isSome then .registered else .unregistered)

theorem installed_of_loaded {c : Config} {first : Backend} {b : Bridge H} {bindings : List Binding}
    (loaded : b.Loaded first bindings) (order : bindings.Perm c.hotkeys.list) :
    Installed c first b where
  owners id chord := by simpa only [order.mem_iff] using loaded.owners id chord
  phase := loaded.phase

/-! ## What scripts get -/

/-- No script has or gets an identifier of a binding, not even of one that has failed. -/
structure Apart (c : Config) (r : Script.Runtime φ) : Prop where
  allocated : ∀ id r', r.allocate = .ok (id, r') → ∀ x ∈ c.hotkeys.list, x.id < id
  objects : ∀ o ∈ r.objects, ∀ x ∈ c.hotkeys.list, x.id < o.id
  created : ∀ items env f args n, (r.call items env f args).1 = .ok (.value (.hotkey n)) →
    ∃ id r', r.allocate = .ok (id, r') ∧ (r.call items env f args).2.idOf n = some id

theorem apart_of_orderly {c : Config} {r : Script.Runtime φ} (orderly : r.Orderly c.script.idBase)
    (below : ∀ x ∈ c.hotkeys.list, x.id < c.script.idBase) : Apart c r where
  allocated _ _ allocated x member :=
    UInt32.lt_of_lt_of_le (below x member) (orderly.allocate allocated)
  objects _ object x member :=
    UInt32.lt_of_lt_of_le (below x member) (orderly.above _ (mem_cards object))
  created items env f args n made := by
    obtain ⟨id, r', allocated, card⟩ := card_of_call made
    have orderly' : (r.call items env f args).2.Orderly c.script.idBase := by
      rw [r.call_run]
      exact orderly.later _
    exact ⟨id, r', allocated, orderly'.idOf_eq_some card⟩

/-- The program starts with a validated configuration on a backend that nobody else uses, and the
bindings come in any order. Only a key that the backend does not know can fail, the bridge has all
other bindings afterwards, and whatever happens later, scripts get no identifier of a binding. -/
theorem startup (c : Config) (valid : c.validate = .ok ()) (kind : Backend.Kind)
    (bindings : List Binding) (order : bindings.Perm c.hotkeys.list) :
    let first := Backend.ofKind kind
    let start : Runtime := .start first c.strict c.script.idBase
    let r := (registerAll start bindings).1
    Registers first start bindings ∧ Installed c first r.bridge ∧
      ∀ moves, Apart c (r.run moves) := by
  intro first start r
  obtain ⟨ids, chords, below⟩ := Config.validate_eq_ok_iff.mp valid
  have new : start.bridge.Loaded first [] := Loaded.new kind c.strict
  obtain ⟨expected, loaded⟩ := new.run ((order.map (·.id)).nodup_iff.mpr ids)
    ((order.map (·.chord)).nodup_iff.mpr chords)
  have registers : Registers first start bindings := registers_of_expected expected
  refine ⟨registers, ?_, ?_⟩
  · rw [registers.bridge]
    exact installed_of_loaded loaded order
  · intro moves
    have orderly : r.Orderly c.script.idBase := by
      rw [show r = _ from registerAll_runtime start bindings]
      exact (start_orderly first c.strict c.script.idBase []).congr rfl rfl rfl rfl
    exact apart_of_orderly (orderly.later moves) below

/-- Two hotkeys are configured, and the key of the second one is out of range. -/
theorem startup_out_of_range :
    let c : Config := { hotkeys := ⟨[⟨2, { key := 0xFF }, none⟩, ⟨1, { key := 0x00 }, none⟩]⟩ }
    let start : Runtime := .start (.ofKind .simulated) true 1000
    let r := (registerAll start c.hotkeys.list).1
    c.validate = .ok () ∧ r.bridge.chord? 1 = some { key := 0x00 } ∧
      (∀ chord, r.bridge.chord? 2 ≠ some chord) ∧
      ∀ moves id r', (r.run moves).allocate = .ok (id, r') → 2 < id := by
  intro c start r
  have valid : c.validate = .ok () := rfl
  obtain ⟨-, installed, later⟩ := startup c valid .simulated c.hotkeys.list (.refl _)
  refine ⟨valid, ?_, ?_, ?_⟩
  · exact (installed.owners 1 { key := 0x00 }).mpr ⟨⟨1, { key := 0x00 }, none⟩, by decide, rfl, rfl, rfl⟩
  · intro chord owner
    obtain ⟨x, member, id, rfl, admitted⟩ := (installed.owners 2 chord).mp owner
    revert x
    decide
  · intro moves id r' allocated
    exact (later moves).allocated id r' allocated ⟨2, { key := 0xFF }, none⟩ (by decide)

end Cli

end Hotkeys
