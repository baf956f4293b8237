import Hotkeys.Proofs.Backend.Simulated
import Hotkeys.Proofs.Bridge.Nested

/-!
# The table of a bridge and what the system has registered

A simulated system that only the bridge uses has a live registration for every table entry, under
the number that the entry holds and for the same identifier and combination. As long as no release
has been refused it has no others.
-/

namespace Hotkeys.Bridge

open Backend

variable {H : Type} {b b' : Bridge H} {s : Simulated} {r : Bool}

/-- The system has what the table says. -/
structure Backed (b : Bridge H) (s : Simulated) : Prop where
  backend : b.backend = .simulated s
  numbered : s.Numbered
  granted : ∀ {id holding}, b.handles.live.get? id = some holding →
    ∃ n, holding.os = .numbered n ∧ ⟨n, id, holding.chord⟩ ∈ s.live

/-- The table says what the system has. -/
def Tracks (b : Bridge H) (s : Simulated) : Prop :=
  ∀ g ∈ s.live, ∃ holding, b.handles.live.get? g.id = some holding ∧
    holding.os = .numbered g.number

namespace Backed

/-- The system takes a registration with the number that the table notes for it. -/
theorem enroll (backed : b.Backed s) (id : HotkeyId) (chord : Chord) :
    (b.enroll id chord (.numbered s.next) (.simulated (s.add id chord))).Backed
      (s.add id chord) := by
  refine ⟨rfl, backed.numbered.add id chord, ?_⟩
  intro other holding live
  obtain ⟨rfl, rfl⟩ | ⟨-, live⟩ := Table.get?_insert_eq_some_iff.mp live
  · exact ⟨s.next, rfl, List.mem_cons_self⟩
  · obtain ⟨n, os, grant⟩ := backed.granted live
    exact ⟨n, os, List.mem_cons_of_mem _ grant⟩

/-- The system lets go of the number that the table forgets. -/
theorem withdraw (backed : b.Backed s) {id : HotkeyId} {holding : Holding} {n : Nat}
    (live : b.handles.live.get? id = some holding) (os : holding.os = .numbered n) :
    (b.withdraw id (.simulated (s.remove n))).Backed (s.remove n) := by
  refine ⟨by simp, backed.numbered.of_sublist List.filter_sublist rfl, ?_⟩
  intro other holding' live'
  rw [withdraw_handles] at live'
  obtain ⟨different, live'⟩ := Table.get?_erase_eq_some_iff.mp live'
  obtain ⟨n', os', grant'⟩ := backed.granted live'
  refine ⟨n', os', Simulated.mem_remove.mpr ⟨grant', ?_⟩⟩
  -- a number that two entries held would stand for both identifiers
  rintro rfl
  obtain ⟨m, same, grant⟩ := backed.granted live
  cases os.symm.trans same
  exact different (congrArg Grant.id (backed.numbered.eq_of_number grant' grant rfl))

/-- If the table forgets a registration that the system keeps, all other entries are still backed.
-/
theorem abandon (backed : b.Backed s) (id : HotkeyId) : (b.withdraw id b.backend).Backed s := by
  refine ⟨by simp [backed.backend], backed.numbered, ?_⟩
  intro other holding live
  rw [withdraw_handles] at live
  exact backed.granted (Table.get?_erase_eq_some_iff.mp live).2

end Backed

namespace Tracks

theorem enroll (tracks : b.Tracks s) {id : HotkeyId} (free : b.isRegistered id = false)
    (chord : Chord) :
    (b.enroll id chord (.numbered s.next) (.simulated (s.add id chord))).Tracks
      (s.add id chord) := by
  intro g live
  cases List.mem_cons.mp live with
  | inl new => exact new ▸ ⟨_, b.enroll_get?_self .., rfl⟩
  | inr old =>
    obtain ⟨holding, entry, os⟩ := tracks g old
    have different : g.id ≠ id := by
      rintro rfl
      exact absurd (isRegistered_iff.mpr ⟨holding, entry⟩) (by simp [free])
    exact ⟨holding, by simp [Bridge.enroll, Table.get?_insert, different, entry], os⟩

theorem withdraw (tracks : b.Tracks s) {id : HotkeyId} {holding : Holding} {n : Nat}
    (live : b.handles.live.get? id = some holding) (os : holding.os = .numbered n)
    (backend : Backend) : (b.withdraw id backend).Tracks (s.remove n) := by
  intro g kept
  obtain ⟨grant, number⟩ := Simulated.mem_remove.mp kept
  obtain ⟨holding', entry, os'⟩ := tracks g grant
  have different : g.id ≠ id := by
    rintro rfl
    cases live.symm.trans entry
    cases os.symm.trans os'
    exact number rfl
  exact ⟨holding', by simp [Table.get?_erase, different, entry], os'⟩

end Tracks

/-- Releases one after the other: some registrations go, and those that were to go are gone if
none was refused. -/
theorem releaseEach_simulated (env : Conditions) (s : Simulated) (detached : List Detached) :
    ∃ s', releaseEach env (.simulated s) detached = .simulated s' ∧
      s'.live.Sublist s.live ∧ s'.next = s.next ∧
      (refusesAny env (.simulated s) detached = false →
        ∀ g ∈ s'.live, ∀ d ∈ detached, d.os ≠ .numbered g.number) := by
  induction detached generalizing s with
  | nil => exact ⟨s, rfl, .refl _, rfl, by simp⟩
  | cons d rest ih =>
    simp only [releaseEach, List.foldl_cons, refusesAny] at ih ⊢
    cases released : d.release (.simulated s) env with
    | error e =>
      obtain ⟨s', each, sublist, next, -⟩ := ih s
      exact ⟨s', each, sublist, next, by simp⟩
    | ok backend =>
      obtain ⟨n, os, rfl⟩ := release_simulated released
      obtain ⟨s', each, sublist, next, gone⟩ := ih (s.remove n)
      refine ⟨s', each, sublist.trans List.filter_sublist, next, ?_⟩
      intro accepted g live d' member
      cases List.mem_cons.mp member with
      | inr later => exact gone accepted g live d' later
      | inl first =>
        obtain ⟨-, number⟩ := Simulated.mem_remove.mp (sublist.subset live)
        subst first
        rw [os]
        rintro ⟨⟩
        exact number rfl

/-- A shutdown empties the table. It empties the system too if nothing is refused and the system has
nothing beside the table. -/
theorem Backed.shutdown (backed : b.Backed s) (env : Conditions) :
    ∃ s', (b.shutdown env).2.Backed s' ∧
      (refusesAny env b.backend b.handles.detachAll.1 = false → b.Tracks s → s'.live = []) := by
  obtain ⟨s', each, sublist, next, gone⟩ := releaseEach_simulated env s b.handles.detachAll.1
  refine ⟨s', ⟨?_, backed.numbered.of_sublist sublist next, ?_⟩, ?_⟩
  · rw [shutdown_backend, backed.backend, each]
  · intro id holding live
    rw [shutdown_handles] at live
    cases live
  · intro accepted tracks
    rw [backed.backend] at accepted
    refine List.eq_nil_iff_forall_not_mem.mpr ?_
    intro g live
    obtain ⟨holding, entry, os⟩ := tracks g (sublist.subset live)
    refine gone accepted g live ⟨g.id, holding.os⟩ ?_ os
    exact List.mem_map.mpr ⟨(g.id, holding), Table.get?_eq_some_iff.mp entry, rfl⟩

/-- The registrations of the system agree with the table, exactly unless a release may have been
refused. -/
def Agrees (r : Bool) (b : Bridge H) : Prop := ∃ s, b.Backed s ∧ (r = false → b.Tracks s)

theorem Agrees.congr (agrees : b.Agrees r) (handles : b'.handles = b.handles)
    (backend : b'.backend = b.backend) : b'.Agrees r := by
  obtain ⟨s, backed, tracks⟩ := agrees
  refine ⟨s, ⟨backend.trans backed.backend, backed.numbered, handles ▸ backed.granted⟩, ?_⟩
  unfold Tracks
  rw [handles]
  exact tracks

/-- Table and system agree after each change, exactly so while no release is refused. -/
theorem Agrees.change (agrees : b.Agrees r) (change : Change r b b') : b'.Agrees r := by
  cases change with
  | enroll free accepted =>
    obtain ⟨s, backed, tracks⟩ := agrees
    rw [backed.backend] at accepted
    obtain ⟨rfl, rfl⟩ := register_simulated accepted
    exact ⟨_, backed.enroll _ _, fun exact => (tracks exact).enroll free _⟩
  | fill registered unbound => exact agrees.congr rfl rfl
  | discard => exact agrees.congr (discard_handles ..) (discard_backend ..)
  | clearSlot => exact agrees.congr (clearSlot_handles ..) (clearSlot_backend ..)
  | withdraw live released =>
    obtain ⟨s, backed, tracks⟩ := agrees
    rw [backed.backend] at released
    obtain ⟨n, os, rfl⟩ := release_simulated released
    exact ⟨_, backed.withdraw live os, fun exact => (tracks exact).withdraw live os _⟩
  | abandon allowed =>
    obtain ⟨s, backed, -⟩ := agrees
    exact ⟨s, backed.abandon _, fun exact => absurd (allowed.symm.trans exact) (by decide)⟩
  | @shutdown env allowed =>
    obtain ⟨s, backed, tracks⟩ := agrees
    obtain ⟨s', backed', empty⟩ := backed.shutdown env
    refine ⟨s', backed', fun exact => ?_⟩
    have accepted : refusesAny env b.backend b.handles.detachAll.1 = false :=
      Bool.eq_false_iff.mpr fun refused => absurd ((allowed refused).symm.trans exact) (by decide)
    simp [Tracks, empty accepted (tracks exact)]
  | enter registered => exact agrees.congr rfl rfl
  | leave => exact agrees.congr (leave_handles _) (leave_backend _)
  | listen => exact agrees.congr rfl rfl

theorem new_agrees (strict : Bool) : (new (.simulated {}) strict : Bridge H).Agrees r :=
  ⟨{}, ⟨rfl, .empty, fun live => nomatch live⟩, fun _ _ live => nomatch live⟩

/-- Two entries that hold the same number are the same registration. -/
theorem Backed.eq_of_os (backed : b.Backed s) {id id' : HotkeyId} {holding holding' : Holding}
    (entry : b.handles.live.get? id = some holding)
    (entry' : b.handles.live.get? id' = some holding') (same : holding.os = holding'.os) :
    id = id' := by
  obtain ⟨n, os, grant⟩ := backed.granted entry
  obtain ⟨n', os', grant'⟩ := backed.granted entry'
  cases os.symm.trans (same.trans os')
  exact congrArg Grant.id (backed.numbered.eq_of_number grant grant' rfl)

/-- A registration that the table tracks is the one that its entry was granted. -/
theorem Backed.grant_eq (backed : b.Backed s) {g : Grant} {holding : Holding} (grant : g ∈ s.live)
    (entry : b.handles.live.get? g.id = some holding) (os : holding.os = .numbered g.number) :
    g = ⟨g.number, g.id, holding.chord⟩ := by
  obtain ⟨n, os', grant'⟩ := backed.granted entry
  cases os.symm.trans os'
  exact backed.numbered.eq_of_number grant grant' rfl

/-- No two registrations that the table tracks are for the same identifier. -/
theorem Tracks.nodup_ids (tracks : b.Tracks s) (backed : b.Backed s) :
    (s.live.map (·.id)).Nodup := by
  refine List.Nodup.map_on ?_ (.of_map _ backed.numbered.nodup)
  intro g live g' live' same
  obtain ⟨holding, entry, os⟩ := tracks g live
  obtain ⟨holding', entry', os'⟩ := tracks g' live'
  rw [same] at entry
  cases entry.symm.trans entry'
  exact backed.numbered.eq_of_number live live' (OsHandle.numbered.inj (os.symm.trans os'))

/-- Table and system have the same number of registrations. -/
theorem Tracks.size_eq (tracks : b.Tracks s) (backed : b.Backed s) : b.size = s.liveCount := by
  have ids : (s.live.map (·.id)).Nodup := tracks.nodup_ids backed
  have perm : (s.live.map (·.id)).Perm b.handles.live.keys := by
    refine (List.perm_ext_iff_of_nodup ids b.handles.live.nodup_keys).mpr ?_
    intro id
    refine Iff.trans ?_ (Table.contains_iff_mem_keys.symm.trans Table.contains_iff).symm
    constructor
    · intro member
      obtain ⟨g, live, rfl⟩ := List.mem_map.mp member
      obtain ⟨holding, entry, -⟩ := tracks g live
      exact ⟨holding, entry⟩
    · rintro ⟨holding, entry⟩
      obtain ⟨n, -, grant⟩ := backed.granted entry
      exact List.mem_map.mpr ⟨_, grant, rfl⟩
  calc b.size = b.handles.live.keys.length := (List.length_map _).symm
    _ = (s.live.map (·.id)).length := perm.length_eq.symm
    _ = s.liveCount := List.length_map _

/-- The system has a combination if some identifier is registered for it. -/
theorem Tracks.isBound_iff (tracks : b.Tracks s) (backed : b.Backed s) (chord : Chord) :
    b.backend.isBound chord = true ↔ ∃ id, b.chord? id = some chord := by
  rw [backed.backend]
  simp only [Backend.isBound, Simulated.isBound, List.any_eq_true, beq_iff_eq, chord?,
    Handles.chord?, Option.map_eq_some_iff]
  constructor
  · rintro ⟨g, live, rfl⟩
    obtain ⟨holding, entry, os⟩ := tracks g live
    rw [backed.grant_eq live entry os]
    exact ⟨g.id, holding, entry, rfl⟩
  · rintro ⟨id, holding, entry, rfl⟩
    obtain ⟨n, -, grant⟩ := backed.granted entry
    exact ⟨_, grant, rfl⟩

/-- Table and system agree after any run. -/
theorem new_agrees_run (r : Bool) (strict : Bool) (moves : List (Move H))
    (allowed : (new (.simulated {}) strict).refusesIn moves = true → r = true) :
    ((new (.simulated {}) strict).run moves).Agrees r :=
  (new_paired _ strict).run_keeps_of_change (fun _ agrees change => agrees.change change)
    (new_agrees strict) allowed

/-- The registrations of a simulated system as those of a bridge. Every entry of the table has a live
registration under its own number, for the same identifier and combination. If no release has been
refused there are no others, so the system counts what the bridge counts and knows the combinations
of the live identifiers and no more. -/
structure Registrations (s : Simulated) (refused : Bool) (b : Bridge H) : Prop where
  backend : b.backend = .simulated s
  granted : ∀ id holding, b.handles.live.get? id = some holding →
    ∃ n, holding.os = .numbered n ∧ s.grant? n = some ⟨n, id, holding.chord⟩
  apart : ∀ id id' holding holding', b.handles.live.get? id = some holding →
    b.handles.live.get? id' = some holding' → holding.os = holding'.os → id = id'
  tracked : refused = false → ∀ g ∈ s.live, ∃ holding, b.handles.live.get? g.id = some holding ∧
    holding.os = .numbered g.number ∧ holding.chord = g.chord
  counted : refused = false → b.backend.liveCount? = some b.size
  known : refused = false →
    ∀ chord, b.backend.isBound chord = true ↔ ∃ id, b.chord? id = some chord

theorem Backed.registrations (backed : b.Backed s) {refused : Bool}
    (exactly : refused = false → b.Tracks s) : b.Registrations s refused where
  backend := backed.backend
  granted id holding entry := by
    obtain ⟨n, os, granted⟩ := backed.granted entry
    exact ⟨n, os, backed.numbered.grant?_eq_some granted⟩
  apart _ _ _ _ := backed.eq_of_os
  tracked accepted g grant := by
    obtain ⟨holding, entry, os⟩ := exactly accepted g grant
    exact ⟨holding, entry, os, (congrArg Grant.chord (backed.grant_eq grant entry os)).symm⟩
  counted accepted := by
    rw [(exactly accepted).size_eq backed, backed.backend]
    rfl
  known accepted := (exactly accepted).isBound_iff backed

theorem exists_registrations (strict : Bool) (moves : List (Move H)) :
    ∃ s, ((new (.simulated {}) strict).run moves).Registrations s
      ((new (.simulated {}) strict : Bridge H).refusesIn moves) := by
  obtain ⟨s, backed, exactly⟩ := new_agrees_run _ strict moves id
  exact ⟨s, backed.registrations exactly⟩

/-- In every state that a bridge can reach, and in what a dispatch makes of it, the registrations of
the system are those of the bridge, as far as no release has been refused on the way there. -/
theorem registrations_run (strict : Bool) (moves : List (Move H)) :
    let start : Bridge H := new (.simulated {}) strict
    let b := start.run moves
    (∃ s, b.Registrations s (start.refusesIn moves)) ∧
    ∀ more b', b.Dispatches more b' →
      ∃ s, b'.Registrations s (start.refusesIn (moves ++ more)) := by
  intro start b
  refine ⟨exists_registrations strict moves, fun more b' dispatches => ?_⟩
  rw [dispatches.run.1]
  exact exists_registrations strict (moves ++ more)

/-- A handler unregisters its own hotkey, and the system has nothing left when the dispatch ends. -/
theorem registrations_run_retired :
    let moves : List (Move Unit) := [.registerAndBind {} none 7 { key := 65 } ()]
    let t := Stage.told fun _ : Unit => [.unregister {} 7]
    let b' := (t.dispatch ⟨7, true⟩ ((new (.simulated {}) true).run moves)).2
    b'.backend.liveCount? = some b'.size ∧ b'.backend.isBound { key := 65 } = false := by
  intro moves t b'
  obtain ⟨-, dispatched⟩ := registrations_run true moves
  obtain ⟨s, registrations⟩ := dispatched _ b'
    (Stage.told_dispatches (fun _ => List.forall_mem_singleton.mpr rfl) ⟨7, true⟩ rfl)
  have counted := registrations.counted (by decide +kernel)
  exact ⟨counted, rfl⟩

end Hotkeys.Bridge
