import Hotkeys.Proofs.Bridge.Cells
import Hotkeys.Proofs.Bridge.Coverage
import Hotkeys.Proofs.Bridge.Rollback
import Hotkeys.Proofs.Bridge.System
import Hotkeys.Proofs.Script.Nested
import Hotkeys.Proofs.Script.Objects

/-!
# Enabled objects and live registrations

As long as only scripts and shutdowns change what is registered, the registrations that are live are
those of the enabled objects: nothing stays behind when an object is disabled or dropped, whatever
has happened to it before.
-/

namespace Hotkeys.Script.Runtime

variable {φ : Type} {r r' : Runtime φ} {base : HotkeyId} {n : Nat} {o : HotkeyObject φ}

/-! ## What own moves keep -/

/-- Every registration is that of an object with its handle, and is bound. -/
structure Matched (r : Runtime φ) : Prop where
  held : r.bridge.held = true
  entry : ∀ {id holding}, r.bridge.handles.live.get? id = some holding →
    ∃ o ∈ r.objects, o.id = id ∧ o.chord = holding.chord ∧ o.handle = some ⟨id, holding.serial⟩
  bound : ∀ {id holding}, r.bridge.handles.live.get? id = some holding → r.bridge.isBound id = true

namespace Matched

theorem isAlive (matched : r.Matched) : r.bridge.isAlive = true := by
  simp [Bridge.isAlive, matched.held]

/-- Registrations may go, and objects that have none. -/
theorem of_subset (matched : r.Matched) (held : r'.bridge.held = r.bridge.held)
    (entries : ∀ {id holding}, r'.bridge.handles.live.get? id = some holding →
      r.bridge.handles.live.get? id = some holding ∧
        r'.bridge.slots.get? id = r.bridge.slots.get? id ∧
        ∀ o ∈ r.objects, o.id = id → o ∈ r'.objects) : r'.Matched where
  held := held.trans matched.held
  entry entry := by
    obtain ⟨before, -, kept⟩ := entries entry
    obtain ⟨o, member, id, rest⟩ := matched.entry before
    exact ⟨o, kept o member id, id, rest⟩
  bound entry := by
    obtain ⟨before, slot, -⟩ := entries entry
    obtain ⟨c, bound⟩ := Bridge.isBound_iff.mp (matched.bound before)
    exact Bridge.isBound_iff.mpr ⟨c, slot.trans bound⟩

/-- In a matched runtime, an object is enabled if its identifier is registered. -/
theorem isEnabled_iff (matched : r.Matched) (orderly : r.Orderly base) (member : o ∈ r.objects) :
    r.isEnabled o = true ↔ ∃ holding, r.bridge.handles.live.get? o.id = some holding := by
  rw [Runtime.isEnabled_iff]
  constructor
  · rintro ⟨h, -, current⟩
    obtain ⟨-, id, live⟩ := liveHandle?_eq_some_iff.mp current
    obtain ⟨holding, entry, -⟩ := Handles.isLive_iff.mp live
    exact ⟨holding, id ▸ entry⟩
  · rintro ⟨holding, entry⟩
    obtain ⟨o', member', id, -, handle⟩ := matched.entry entry
    cases orderly.eq_of_id member' member id
    refine ⟨_, handle, liveHandle?_eq_some_iff.mpr ⟨matched.isAlive, rfl, ?_⟩⟩
    exact Handles.isLive_iff.mpr ⟨holding, entry, rfl⟩

/-- An object that has given up its registration may lose its handle, or go. -/
theorem release (matched : r.Matched) (orderly : r.Orderly base) (paired : r.bridge.Paired)
    (member : o ∈ r.objects) {env : Conditions} (left : r'.bridge = (r.release env o).2)
    (others : ∀ o' ∈ r.objects, o' ≠ o → o' ∈ r'.objects) : r'.Matched := by
  obtain ⟨-, _, backend, _, -, -, -, released⟩ | ⟨off, released⟩ := release_cases paired env o
  · rw [released] at left
    refine matched.of_subset (by rw [left, Bridge.withdraw_eq]) ?_
    intro id holding entry
    rw [left, Bridge.withdraw_handles] at entry
    obtain ⟨different, before⟩ := Table.get?_erase_eq_some_iff.mp entry
    refine ⟨before, ?_, ?_⟩
    · rw [left, Bridge.withdraw_slots, Table.get?_erase, if_neg different]
    · rintro o' member' rfl
      refine others o' member' ?_
      rintro rfl
      exact different rfl
  · rw [released] at left
    refine matched.of_subset (by rw [left]) ?_
    intro id holding entry
    rw [left] at entry
    refine ⟨entry, by rw [left], ?_⟩
    rintro o' member' rfl
    refine others o' member' ?_
    rintro rfl
    -- an entry for the identifier would make the object enabled
    have enabled := (matched.isEnabled_iff orderly member).mpr ⟨holding, entry⟩
    simp [off] at enabled

theorem disable (matched : r.Matched) (orderly : r.Orderly base) (paired : r.bridge.Paired)
    (env : Conditions) (n : Nat) : (r.disable env n).Matched := by
  cases found : r.object? n with
  | none => simpa [Runtime.disable, found] using matched
  | some o =>
    obtain ⟨member, rfl⟩ := object?_some found
    refine matched.release orderly paired member (by rw [disable_eq found]) ?_
    intro o' member' different
    rw [disable_eq found]
    refine mem_updateObject.mpr ⟨o', member', .inr ⟨?_, rfl⟩⟩
    exact fun same => different (orderly.eq_of_number member' member same)

theorem drop (matched : r.Matched) (orderly : r.Orderly base) (paired : r.bridge.Paired)
    (env : Conditions) (n : Nat) : (r.dropObject env n).Matched := by
  cases found : r.object? n with
  | none => simpa [dropObject, found] using matched
  | some o =>
    obtain ⟨member, rfl⟩ := object?_some found
    refine matched.release orderly paired member (by rw [dropObject_eq found]) ?_
    intro o' member' different
    rw [dropObject_eq found]
    refine List.mem_filter.mpr ⟨member', bne_iff_ne.mpr ?_⟩
    exact fun same => different (orderly.eq_of_number member' member same)

theorem enable (matched : r.Matched) (orderly : r.Orderly base) (paired : r.bridge.Paired)
    (env : Conditions) (n : Nat) : (r.enable env n).2.Matched := by
  obtain ⟨same, -⟩ | ⟨o, found, -, -, _, bridge, took, ⟨h, rfl, done⟩ | ⟨other, _, failed⟩⟩ :=
    r.enable_cases env n
  · rwa [same]
  · obtain ⟨member, rfl⟩ := object?_some found
    obtain ⟨rfl, -, os, backend, -, rfl⟩ := paired.registerAndBind_done took
    rw [done]
    refine ⟨matched.held, ?_, ?_⟩
    · intro id holding entry
      obtain ⟨rfl, rfl⟩ | ⟨different, before⟩ := Table.get?_insert_eq_some_iff.mp entry
      · exact ⟨_, mem_updateObject.mpr ⟨o, member, .inl ⟨rfl, rfl⟩⟩, rfl, rfl, rfl⟩
      · obtain ⟨o', member', id', rest⟩ := matched.entry before
        refine ⟨o', mem_updateObject.mpr ⟨o', member', .inr ⟨?_, rfl⟩⟩, id', rest⟩
        -- the object of another entry has another identifier, so it keeps its handle
        intro same
        cases orderly.eq_of_number member' member same
        exact different id'.symm
    · intro id holding entry
      refine Bridge.isBound_iff.mpr ?_
      obtain ⟨rfl, -⟩ | ⟨different, before⟩ := Table.get?_insert_eq_some_iff.mp entry
      · exact ⟨_, Table.get?_insert_eq_some_iff.mpr (.inl ⟨rfl, rfl⟩)⟩
      · obtain ⟨c, slot⟩ := Bridge.isBound_iff.mp (matched.bound before)
        exact ⟨c, Table.get?_insert_eq_some_iff.mpr (.inr ⟨different, slot⟩)⟩
  · obtain ⟨live, slots, held⟩ := (paired.registerAndBind_undone took other).tables
    rw [failed]
    refine matched.of_subset held ?_
    intro id holding entry
    exact ⟨live ▸ entry, congrArg (Table.get? · id) slots, fun _ member _ => member⟩

/-- Each move of the scripts keeps objects and registrations matched. -/
theorem take (matched : r.Matched) (orderly : r.Orderly base) (paired : r.bridge.Paired)
    {m : Move φ} (own : m.isOwn = true) : (r.take m).Matched := by
  cases m with
  | create chord handler =>
    simp only [Runtime.take, create_eq]
    cases freeId r.isTaken r.idBase with
    | none => exact matched
    | some id =>
      exact matched.of_subset rfl fun entry =>
        ⟨entry, rfl, fun _ member _ => List.mem_append_left _ member⟩
  | enable env n => exact matched.enable orderly paired env n
  | disable env n => exact matched.disable orderly paired env n
  | drop env n => exact matched.drop orderly paired env n
  | bridge m =>
    simp only [Runtime.take, matched.isAlive, if_true]
    cases m with
    | enter id =>
      simp only [Bridge.take, Bridge.enter]
      split <;> exact matched.of_subset rfl fun entry => ⟨entry, rfl, fun _ member _ => member⟩
    | leave =>
      simp only [Bridge.take]
      rw [Bridge.leave_eq]
      exact matched.of_subset rfl fun entry => ⟨entry, rfl, fun _ member _ => member⟩
    | shutdown env =>
      simp only [Bridge.take]
      rw [Bridge.shutdown_eq]
      refine matched.of_subset rfl ?_
      intro id holding entry
      cases entry
    | _ => cases own
  | letGo => cases own
  | close env =>
    simp only [Runtime.take, matched.isAlive, if_true]
    exact matched
  | listen listeners =>
    exact matched.of_subset rfl fun entry => ⟨entry, rfl, fun _ member _ => member⟩

end Matched

/-- Objects and registrations match as long as the scripts alone use the bridge. -/
theorem start_matched (backend : Backend) (strict : Bool) (base : HotkeyId) {moves : List (Move φ)}
    (own : ∀ m ∈ moves, m.isOwn = true) : ((start backend strict base).run moves).Matched := by
  induction moves using List.reverseRecOn with
  | nil => exact ⟨rfl, nofun, nofun⟩
  | append_singleton moves m ih =>
    have before := ih fun m member => own m (List.mem_append_left _ member)
    rw [run_append]
    exact before.take (start_orderly backend strict base moves)
      (start_paired backend strict base moves) (own m (by simp))

theorem start_tidy (backend : Backend) (strict : Bool) (base : HotkeyId) (moves : List (Move φ)) :
    ((start backend strict base).run moves).bridge.Tidy [] :=
  (run_keeps_of_change true (fun _ tidy change => tidy.change change)
    (fun tidy => tidy.congr rfl rfl rfl rfl) (Bridge.new_paired backend strict)
    (Bridge.new_tidy backend strict) moves fun _ => rfl).2

/-- The system has nothing beside the table as long as it refuses no release. -/
theorem start_covered (kind : Backend.Kind) (strict : Bool) (base : HotkeyId)
    {moves : List (Move φ)}
    (accepted : (start (.ofKind kind) strict base).refusesIn moves = false) :
    ((start (.ofKind kind) strict base).run moves).bridge.Covered :=
  (run_keeps_of_change false (fun _ covered change => covered.change change)
    (fun covered => covered.congr rfl rfl) (Bridge.new_paired _ strict)
    (Bridge.new_covered kind strict) moves fun refused => accepted.symm.trans refused).2

/-! ## Enabled objects -/

/-- The objects that are enabled. -/
def enabled (r : Runtime φ) : List (HotkeyObject φ) := r.objects.filter r.isEnabled

theorem Orderly.nodup_enabled (orderly : r.Orderly base) : (r.enabled.map (·.id)).Nodup := by
  have ids := orderly.ids
  rw [cards, List.map_map] at ids
  exact ids.sublist (List.filter_sublist.map _)

/-- The keys of the slots are those of the table. -/
theorem Matched.slots_perm (matched : r.Matched) (paired : r.bridge.Paired) :
    r.bridge.slots.keys.Perm r.bridge.handles.live.keys := by
  refine (List.perm_ext_iff_of_nodup r.bridge.slots.nodup_keys
    r.bridge.handles.live.nodup_keys).mpr fun id => ?_
  refine Table.contains_iff_mem_keys.symm.trans (Iff.trans ?_ Table.contains_iff_mem_keys)
  refine ⟨paired id, fun registered => ?_⟩
  obtain ⟨holding, entry⟩ := Bridge.isRegistered_iff.mp registered
  exact matched.bound entry

/-- The live identifiers are those of the enabled objects. -/
theorem Matched.ids_perm (matched : r.Matched) (orderly : r.Orderly base) :
    r.bridge.ids.Perm (r.enabled.map (·.id)) := by
  refine (List.mergeSort_perm ..).trans ?_
  refine (List.perm_ext_iff_of_nodup r.bridge.handles.live.nodup_keys
    orderly.nodup_enabled).mpr fun id => ?_
  refine Table.contains_iff_mem_keys.symm.trans (Table.contains_iff.trans ?_)
  simp only [enabled, List.mem_map, List.mem_filter]
  constructor
  · rintro ⟨holding, entry⟩
    obtain ⟨o, member, rfl, -⟩ := matched.entry entry
    exact ⟨o, ⟨member, (matched.isEnabled_iff orderly member).mpr ⟨holding, entry⟩⟩, rfl⟩
  · rintro ⟨o, ⟨member, on⟩, rfl⟩
    exact (matched.isEnabled_iff orderly member).mp on

/-- A system that tracks the table has the combinations of the enabled objects registered. -/
theorem Matched.live_perm (matched : r.Matched) (orderly : r.Orderly base) {s : Backend.Simulated}
    (backed : r.bridge.Backed s) (tracks : r.bridge.Tracks s) :
    (s.live.map fun g => (g.id, g.chord)).Perm (r.enabled.map fun o => (o.id, o.chord)) := by
  have grants : (s.live.map fun g => (g.id, g.chord)).Nodup := by
    refine .of_map Prod.fst ?_
    rw [List.map_map]
    exact tracks.nodup_ids backed
  have objects : (r.enabled.map fun o => (o.id, o.chord)).Nodup := by
    refine .of_map Prod.fst ?_
    rw [List.map_map]
    exact orderly.nodup_enabled
  refine (List.perm_ext_iff_of_nodup grants objects).mpr fun pair => ?_
  obtain ⟨id, chord⟩ := pair
  simp only [enabled, List.mem_map, List.mem_filter, Prod.mk.injEq]
  constructor
  · rintro ⟨g, live, rfl, rfl⟩
    obtain ⟨holding, entry, os⟩ := tracks g live
    obtain ⟨o, member, id, chord, -⟩ := matched.entry entry
    have on := (matched.isEnabled_iff orderly member).mpr ⟨holding, id ▸ entry⟩
    have granted : g.chord = holding.chord :=
      congrArg Backend.Grant.chord (backed.grant_eq live entry os)
    exact ⟨o, ⟨member, on⟩, id, chord.trans granted.symm⟩
  · rintro ⟨o, ⟨member, on⟩, rfl, rfl⟩
    obtain ⟨holding, entry⟩ := (matched.isEnabled_iff orderly member).mp on
    obtain ⟨o', member', id, chord, -⟩ := matched.entry entry
    cases orderly.eq_of_id member' member id
    obtain ⟨n, -, live⟩ := backed.granted entry
    exact ⟨_, live, rfl, chord.symm⟩

/-- Without objects there are no entries. -/
theorem Matched.get?_eq_none (matched : r.Matched) (none_left : r.objects = []) (id : HotkeyId) :
    r.bridge.handles.live.get? id = none := by
  refine Option.eq_none_iff_forall_ne_some.mpr fun holding entry => ?_
  obtain ⟨o, member, -⟩ := matched.entry entry
  simp [none_left] at member

/-- All live identifiers are bound. -/
theorem Matched.phase_eq_bound (matched : r.Matched) (paired : r.bridge.Paired) {id : HotkeyId}
    (live : id ∈ r.bridge.ids) : r.bridge.phase id = .done .bound := by
  have registered : r.bridge.isRegistered id = true :=
    Table.contains_iff_mem_keys.mpr ((List.mergeSort_perm ..).mem_iff.mp live)
  obtain ⟨holding, entry⟩ := Bridge.isRegistered_iff.mp registered
  rw [paired.phase_eq, if_pos (matched.bound entry)]

/-- While no dispatch is under way, the cells that are held are those of the enabled objects. -/
theorem Matched.liveSlots_eq (matched : r.Matched) (orderly : r.Orderly base)
    (paired : r.bridge.Paired) (tidy : r.bridge.Tidy []) (idle : r.bridge.running = []) :
    r.bridge.liveSlots = r.enabled.length :=
  calc r.bridge.liveSlots = r.bridge.boundCount := tidy.liveSlots_of_idle idle
    _ = r.bridge.slots.keys.length := (List.length_map _).symm
    _ = r.bridge.handles.live.keys.length := (matched.slots_perm paired).length_eq
    _ = r.bridge.ids.length := (List.mergeSort_perm ..).length_eq.symm
    _ = r.enabled.length :=
      (matched.ids_perm orderly).length_eq.trans (List.length_map _)

/-- Without objects nothing is registered. -/
theorem Matched.isEmpty (matched : r.Matched) (none_left : r.objects = []) :
    r.bridge.isEmpty = true := by
  refine List.isEmpty_iff.mpr (List.eq_nil_iff_forall_not_mem.mpr ?_)
  intro entry listed
  have absent := matched.get?_eq_none none_left entry.1
  rw [Table.get?_eq_some_iff.mpr listed] at absent
  cases absent

/-- What a runtime has registered is what its enabled objects stand for: the live identifiers are
theirs, and all of them are bound. Once no dispatch is under way, as many cells are held as objects
are enabled. A simulated system that has not refused a release has the combinations of the enabled
objects registered for their identifiers. When all objects have been dropped, nothing is left of any
of this. -/
structure Balanced (kind : Backend.Kind) (refused : Bool) (r : Runtime φ) : Prop where
  told : ∀ o ∈ r.objects, ∀ env,
    (r.callMethod env .enabled o.number).1 = [.boolean (r.isEnabled o)]
  ids : r.bridge.ids.Perm (r.enabled.map (·.id))
  bound : ∀ id ∈ r.bridge.ids, r.bridge.phase id = .done .bound
  held : r.bridge.running = [] → r.bridge.liveSlots = r.enabled.length
  system : kind ≠ .portable → refused = false → ∃ s, r.bridge.backend = .simulated s ∧
    (s.live.map fun g => (g.id, g.chord)).Perm (r.enabled.map fun o => (o.id, o.chord))
  empty : r.objects = [] → r.bridge.isEmpty = true ∧ r.reserved = []
  idle : r.objects = [] → r.bridge.running = [] → r.bridge.liveSlots = 0
  freed : r.objects = [] → refused = false → ∀ chord, r.bridge.backend.isBound chord = false

theorem start_balanced (kind : Backend.Kind) (strict : Bool) (base : HotkeyId)
    {moves : List (Move φ)} (own : ∀ m ∈ moves, m.isOwn = true) :
    ((start (.ofKind kind) strict base).run moves).Balanced kind
      ((start (.ofKind kind) strict base : Runtime φ).refusesIn moves) := by
  have orderly := start_orderly (.ofKind kind) strict base moves
  have paired := start_paired (.ofKind kind) strict base moves
  have matched := start_matched (.ofKind kind) strict base own
  have tidy := start_tidy (.ofKind kind) strict base moves
  constructor
  · intro o member env
    simp [callMethod, orderly.object?_eq_some_iff.mpr ⟨member, rfl⟩]
  · exact matched.ids_perm orderly
  · exact fun id live => matched.phase_eq_bound paired live
  · exact matched.liveSlots_eq orderly paired tidy
  · intro played accepted
    obtain ⟨s, backed, exactly⟩ := start_agrees played strict base moves false
      fun refused => accepted.symm.trans refused
    exact ⟨s, backed.backend, matched.live_perm orderly backed (exactly rfl)⟩
  · intro none_left
    have no_cards : cards ((start (.ofKind kind) strict base).run moves) = [] := by
      simp [cards, none_left]
    exact ⟨matched.isEmpty none_left, by simpa [no_cards] using orderly.reserved⟩
  · intro none_left idle
    rw [matched.liveSlots_eq orderly paired tidy idle]
    simp [enabled, none_left]
  · intro none_left accepted
    exact (start_covered kind strict base accepted).isBound_eq_false
      (matched.get?_eq_none none_left)

/-- In every state that a runtime can reach while only scripts, dispatches and shutdowns have to do
with it, what is registered is what the enabled objects stand for. That is so after each call of the
library, each collection and each event, whose handlers may do the same, and where no dispatch was
under way before, none is afterwards. -/
theorem enabled_run (kind : Backend.Kind) (strict : Bool) (base : HotkeyId)
    {moves : List (Move φ)} (own : ∀ m ∈ moves, m.isOwn = true) :
    let first : Runtime φ := start (.ofKind kind) strict base
    let r := first.run moves
    r.Balanced kind (first.refusesIn moves) ∧
    ∀ more r', r.Leads Move.isOwn more r' →
      r'.Balanced kind (first.refusesIn (moves ++ more)) ∧
        r'.bridge.running = r.bridge.running := by
  intro first r
  refine ⟨start_balanced kind strict base own, fun more r' leads => ⟨?_, leads.running⟩⟩
  rw [leads.run, ← run_append]
  exact start_balanced kind strict base
    (List.forall_mem_append.mpr ⟨own, leads.isAllowed fun _ own => own⟩)

/-- A handler disables its own object, which is collected before the dispatch ends. Nothing stays
behind. -/
theorem enabled_run_collected :
    let moves : List (Move Unit) := [.create { key := 65 } (), .enable {} 1]
    let r := (start (.simulated {}) true 1000).run moves
    let deeds : Unit → List (Deed Unit) := fun _ => [.move (.disable {} 1), .move (.drop {} 1)]
    let r' := ((alone (act deeds (fun _ => .returned true) 1)).dispatch ⟨1000, true⟩ r).2
    r.enabled.length = 1 ∧ r'.bridge.isEmpty = true ∧ r'.reserved = [] ∧
      r'.bridge.liveSlots = 0 ∧ r'.bridge.backend.isBound { key := 65 } = false := by
  intro moves r deeds r'
  have own : ∀ m ∈ moves, m.isOwn = true := by simp [moves, Move.isOwn]
  have plain : ∀ handler, ∀ d ∈ deeds handler, d.isPlain = true := by
    simp [deeds, Deed.isPlain, Deed.isAllowed, Move.isPlain]
  have can : ∀ handler, ∀ d ∈ deeds handler, d.isAllowed Move.isOwn = true := by
    simp [deeds, Deed.isAllowed, Move.isOwn]
  have leads := act_leads (fun _ => .returned true) plain can (fun _ own => own) 1
    (rfl : r.bridge.isAlive = true) ⟨1000, true⟩
  obtain ⟨-, after⟩ := enabled_run .simulated true 1000 own
  obtain ⟨balanced, running⟩ := after _ r' leads
  have gone : r'.objects = [] := by decide +kernel
  obtain ⟨empty, reserved⟩ := balanced.empty gone
  exact ⟨rfl, empty, reserved, balanced.idle gone running,
    balanced.freed gone (by decide +kernel) _⟩

end Hotkeys.Script.Runtime
