import Hotkeys.Proofs.Bridge.Nested
import Hotkeys.Proofs.Bridge.Releases
import Mathlib.Data.List.Induction

/-!
# Registrations that are left over

A release that the system refuses leaves a registration behind that no table entry stands for, and
its identifier may be registered anew at once. So a registration of the system is either the one
that the table has for its identifier, or it is left over from a refused release. The events of both
go by the identifier alone.
-/

namespace Hotkeys.Bridge

open Backend

variable {H : Type} {b b' : Bridge H} {s : Simulated} {env : Conditions} {ds left : List Detached}

/-- The table has the registration. -/
def Holds (b : Bridge H) (g : Grant) : Prop :=
  ∃ holding, b.handles.live.get? g.id = some holding ∧ holding.os = .numbered g.number

/-- A shutdown takes out each entry with the handle that the system knows it by. -/
theorem mem_detachAll {d : Detached} :
    d ∈ b.handles.detachAll.1 ↔
      ∃ holding, b.handles.live.get? d.id = some holding ∧ holding.os = d.os := by
  obtain ⟨id, os⟩ := d
  simp only [Handles.detachAll, List.mem_map, Table.get?_eq_some_iff, Detached.mk.injEq]
  constructor
  · rintro ⟨⟨_, holding⟩, entry, rfl, rfl⟩
    exact ⟨holding, entry, rfl⟩
  · rintro ⟨holding, entry, rfl⟩
    exact ⟨(id, holding), entry, rfl, rfl⟩

/-- The bridge holds a registration if a shutdown would give it up. -/
theorem holds_iff {g : Grant} : b.Holds g ↔ g.detached ∈ b.handles.detachAll.1 := by
  rw [mem_detachAll]
  rfl

/-- A live registration is released unless the system is told to refuse. -/
theorem release_detached {g : Grant} (live : g ∈ s.live) :
    g.detached.release (.simulated s) env =
      match env.releaseFault g.id with
      | some reason => .error (.unregistration g.id reason)
      | none => .ok (.simulated (s.remove g.number)) := by
  have found : (s.live.any fun g' => g'.number == g.number) = true :=
    List.any_eq_true.mpr ⟨g, live, beq_self_eq_true _⟩
  simp only [Grant.detached, Detached.release, Backend.release]
  cases env.releaseFault g.id with
  | some reason => rfl
  | none =>
    simp only [Simulated.release, if_pos found]
    rfl

theorem detachAll_ids (b : Bridge H) :
    b.handles.detachAll.1.map (·.id) = b.handles.live.keys := by
  simp [Handles.detachAll, Table.keys]

theorem detachAll_nodup (b : Bridge H) : b.handles.detachAll.1.Nodup := by
  refine List.Nodup.of_map (·.id) ?_
  rw [detachAll_ids]
  exact b.handles.live.nodup_keys

namespace Backed

/-- What the table gives up is registered. -/
theorem exists_grant (backed : b.Backed s) {d : Detached} (held : d ∈ b.handles.detachAll.1) :
    ∃ g ∈ s.live, g.detached = d := by
  obtain ⟨holding, entry, os⟩ := mem_detachAll.mp held
  obtain ⟨n, number, grant⟩ := backed.granted entry
  refine ⟨_, grant, ?_⟩
  rw [Grant.detached, ← number, os]

/-- A registration that is released by its number is released as what the table gives up. -/
theorem detached_eq (backed : b.Backed s) {g : Grant} {d : Detached} (live : g ∈ s.live)
    (held : d ∈ b.handles.detachAll.1) (os : d.os = .numbered g.number) : d = g.detached := by
  obtain ⟨g', live', rfl⟩ := backed.exists_grant held
  have number : g'.number = g.number := OsHandle.numbered.inj os
  rw [backed.numbered.eq_of_number live' live number]

/-- A registration that the table gives up stays if its release is refused. -/
theorem outlasts_iff_of_mem (backed : b.Backed s) (held : ∀ d ∈ ds, d ∈ b.handles.detachAll.1)
    {g : Grant} (live : g ∈ s.live) :
    outlasts env ds g = true ↔ (g.detached ∈ ds → (env.releaseFault g.id).isSome = true) := by
  rw [outlasts_iff]
  constructor
  · intro all member
    exact all g.detached member rfl
  · intro stays d member os
    have same : d = g.detached := backed.detached_eq live (held d member) os
    subst same
    exact stays member

/-- Of what the table gives up the system refuses what it is told to refuse. -/
theorem refusedOf_eq (numbered : s.Numbered) (nodup : ds.Nodup)
    (granted : ∀ d ∈ ds, ∃ g ∈ s.live, g.detached = d) :
    refusedOf env (.simulated s) ds = ds.filter fun d => (env.releaseFault d.id).isSome := by
  induction ds generalizing s with
  | nil => rfl
  | cons d rest ih =>
    obtain ⟨fresh, distinct⟩ := List.nodup_cons.mp nodup
    obtain ⟨g, live, rfl⟩ := granted d List.mem_cons_self
    have others : ∀ d ∈ rest, ∃ g ∈ s.live, g.detached = d := fun d member =>
      granted d (List.mem_cons_of_mem _ member)
    have id : g.detached.id = g.id := rfl
    rw [refusedOf, release_detached live, List.filter_cons, id]
    cases fault : env.releaseFault g.id with
    | some reason => exact congrArg _ (ih numbered distinct others)
    | none =>
      refine ih (s := s.remove g.number) (numbered.of_sublist List.filter_sublist rfl) distinct ?_
      intro d member
      obtain ⟨g', live', rfl⟩ := others d member
      refine ⟨g', Simulated.mem_remove.mpr ⟨live', fun number => ?_⟩, rfl⟩
      rw [numbered.eq_of_number live' live number] at member
      exact fresh member

end Backed

/-! ## What is accounted for -/

/-- Every registration of the system is held by the table or left over, and not both. -/
structure Accounted (left : List Detached) (b : Bridge H) (s : Simulated) : Prop where
  known : ∀ g ∈ s.live, b.Holds g ∨ g.detached ∈ left
  stray : ∀ d ∈ left, ∃ g ∈ s.live, g.detached = d ∧ ¬ b.Holds g

namespace Accounted

theorem congr (accounted : Accounted left b s) (handles : b'.handles = b.handles) :
    Accounted left b' s := by
  have same : ∀ g, b'.Holds g ↔ b.Holds g := by
    intro g
    rw [holds_iff, holds_iff, handles]
  exact ⟨fun g live => (accounted.known g live).imp (same g).mpr id, fun d member =>
    (accounted.stray d member).imp fun g ⟨live, is, free⟩ => ⟨live, is, free ∘ (same g).mp⟩⟩

/-- A new registration is the bridge's own, so it accounts for itself. -/
theorem enroll (accounted : Accounted left b s) (numbered : s.Numbered) {id : HotkeyId}
    (free : b.isRegistered id = false) (chord : Chord) :
    Accounted left (b.enroll id chord (.numbered s.next) (.simulated (s.add id chord)))
      (s.add id chord) := by
  constructor
  · intro g live
    cases List.mem_cons.mp live with
    | inl new =>
      subst new
      exact .inl ⟨_, b.enroll_get?_self .., rfl⟩
    | inr old =>
      refine (accounted.known g old).imp_left ?_
      rintro ⟨holding, entry, os⟩
      have different : g.id ≠ id := by
        rintro rfl
        exact absurd (isRegistered_iff.mpr ⟨holding, entry⟩) (by simp [free])
      exact ⟨holding, by simp [Bridge.enroll, Table.get?_insert, different, entry], os⟩
  · intro d member
    obtain ⟨g, live, is, stray⟩ := accounted.stray d member
    refine ⟨g, List.mem_cons_of_mem _ live, is, ?_⟩
    rintro ⟨holding, entry, os⟩
    obtain ⟨-, rfl⟩ | ⟨-, entry⟩ := Table.get?_insert_eq_some_iff.mp entry
    · have number : s.next = g.number := OsHandle.numbered.inj os
      exact absurd number (Nat.ne_of_gt (numbered.older g live))
    · exact stray ⟨holding, entry, os⟩

/-- Entries are given up. What the system refuses to release is left over. -/
theorem giveUp (accounted : Accounted left b s) (backed : b.Backed s) (nodup : ds.Nodup)
    (held : ∀ d ∈ ds, d ∈ b.handles.detachAll.1)
    (rest : ∀ g, b'.Holds g ↔ b.Holds g ∧ g.detached ∉ ds) :
    Accounted (left ++ refusedOf env (.simulated s) ds) b' (s.keep (outlasts env ds)) := by
  have refused : refusedOf env (.simulated s) ds = _ :=
    Backed.refusedOf_eq backed.numbered nodup fun d member => backed.exists_grant (held d member)
  have stays : ∀ g, g ∈ (s.keep (outlasts env ds)).live ↔
      g ∈ s.live ∧ (g.detached ∈ ds → (env.releaseFault g.id).isSome = true) := by
    intro g
    refine List.mem_filter.trans (and_congr_right fun live => ?_)
    exact backed.outlasts_iff_of_mem held live
  rw [refused]
  constructor
  · intro g kept
    obtain ⟨live, fault⟩ := (stays g).mp kept
    simp only [List.mem_append, List.mem_filter, rest]
    by_cases given : g.detached ∈ ds
    · exact .inr (.inr ⟨given, fault given⟩)
    · exact (accounted.known g live).imp (fun holds => ⟨holds, given⟩) .inl
  · intro d member
    cases List.mem_append.mp member with
    | inl old =>
      obtain ⟨g, live, rfl, stray⟩ := accounted.stray d old
      refine ⟨g, (stays g).mpr ⟨live, fun given => ?_⟩, rfl, ?_⟩
      · exact absurd (holds_iff.mpr (held _ given)) stray
      · exact fun holds => stray ((rest g).mp holds).1
    | inr new =>
      obtain ⟨given, fault⟩ := List.mem_filter.mp new
      obtain ⟨g, live, rfl⟩ := backed.exists_grant (held d given)
      exact ⟨g, (stays g).mpr ⟨live, fun _ => fault⟩, rfl, fun holds => ((rest g).mp holds).2 given⟩

/-- A single identifier is given up. -/
theorem withdraw (accounted : Accounted left b s) (backed : b.Backed s) {id : HotkeyId}
    {holding : Holding} (entry : b.handles.live.get? id = some holding) (backend : Backend) :
    Accounted (left ++ refusedOf env (.simulated s) (b.detached id)) (b.withdraw id backend)
      (s.keep (outlasts env (b.detached id))) := by
  have only : b.detached id = [⟨id, holding.os⟩] := by
    rw [detached, entry]
    rfl
  rw [only]
  refine accounted.giveUp backed (List.nodup_singleton _) ?_ ?_
  · intro d member
    cases List.mem_singleton.mp member
    exact mem_detachAll.mpr ⟨holding, entry, rfl⟩
  · intro g
    simp only [Holds, withdraw_handles, Table.get?_erase_eq_some_iff, List.mem_singleton]
    constructor
    · rintro ⟨holding', ⟨different, entry'⟩, os⟩
      exact ⟨⟨holding', entry', os⟩, fun same => different (congrArg Detached.id same)⟩
    · rintro ⟨⟨holding', entry', os⟩, other⟩
      refine ⟨holding', ⟨?_, entry'⟩, os⟩
      rintro rfl
      cases entry.symm.trans entry'
      exact other (congrArg _ os.symm)

end Accounted

/-! ## Moves -/

/-- A single release, with the backend that it leaves. -/
theorem releaseEach_detached {id : HotkeyId} {holding : Holding}
    (entry : b.handles.live.get? id = some holding) (backend : Backend) :
    (match backend.release env id holding.os with
      | .ok released => released
      | .error _ => backend) = releaseEach env backend (b.detached id) := by
  unfold detached
  rw [entry]
  change _ = (match backend.release env id holding.os with
    | .ok released => released
    | .error _ => backend)
  cases backend.release env id holding.os <;> rfl

/-- What the system of a bridge has registered is accounted for. -/
def Settled (left : List Detached) (b : Bridge H) : Prop :=
  ∃ s, b.backend = .simulated s ∧ Accounted left b s

theorem Settled.congr (settled : b.Settled left) (handles : b'.handles = b.handles)
    (backend : b'.backend = b.backend) : b'.Settled left := by
  obtain ⟨s, simulated, accounted⟩ := settled
  exact ⟨s, backend.trans simulated, accounted.congr handles⟩

namespace Accounted

/-- One release leaves behind what the system refuses of it, and nothing else. -/
theorem settled_release (accounted : Accounted left b s) (backed : b.Backed s)
    (env : Conditions) {id : HotkeyId} {holding : Holding}
    (entry : b.handles.live.get? id = some holding) :
    (b.withdraw id (match b.backend.release env id holding.os with
      | .ok released => released
      | .error _ => b.backend)).Settled (left ++ refusedOf env b.backend (b.detached id)) := by
  rw [releaseEach_detached entry, backed.backend, releaseEach_eq]
  exact ⟨_, withdraw_backend .., accounted.withdraw backed entry _⟩

/-- A shutdown leaves behind what the system refuses, and nothing else. -/
theorem settled_shutdown (accounted : Accounted left b s) (backed : b.Backed s) :
    (b.shutdown env).2.Settled (left ++ refusedOf env b.backend b.handles.detachAll.1) := by
  refine ⟨s.keep (outlasts env b.handles.detachAll.1), ?_, ?_⟩
  · rw [shutdown_backend, backed.backend, releaseEach_eq]
  · rw [backed.backend]
    refine accounted.giveUp backed b.detachAll_nodup (fun _ => id) fun g => ?_
    rw [holds_iff, holds_iff, shutdown_handles]
    constructor
    · intro none
      cases none
    · rintro ⟨held, gone⟩
      exact absurd held gone

end Accounted

/-- Each move adds to the leftovers what the system refuses of it. -/
theorem Paired.settled_take (paired : b.Paired) (backed : b.Backed s)
    (accounted : Accounted left b s) (m : Move H) :
    (b.take m).2.Settled (left ++ b.refusedBy m) := by
  have nothing : ∀ {b' : Bridge H}, b'.Settled left → b'.Settled (left ++ []) := by
    intro b' settled
    rw [List.append_nil]
    exact settled
  have same : b.Settled (left ++ []) := nothing ⟨s, backed.backend, accounted⟩
  cases m with
  | register env id chord =>
    simp only [Bridge.take, answer, paired.register_eq]
    split
    · exact same
    · rename_i free
      cases accepted : b.backend.register env id chord with
      | error e => exact same
      | ok granted =>
        obtain ⟨os, backend⟩ := granted
        rw [backed.backend] at accepted
        obtain ⟨rfl, rfl⟩ := register_simulated accepted
        exact nothing
          ⟨_, rfl, accounted.enroll backed.numbered (Bool.eq_false_iff.mpr free) chord⟩
  | bind refusal id handler =>
    simp only [Bridge.take, answer, paired.bind_eq]
    split
    · exact same
    · split
      · exact same.congr (discard_handles ..) (discard_backend ..)
      · split
        · exact same.congr rfl rfl
        · exact same.congr (discard_handles ..) (discard_backend ..)
  | registerAndBind env refusal id chord handler =>
    have register := paired.register_eq env id chord
    simp only [Bridge.take, answer, paired.registerAndBind_eq]
    split
    · rename_i registered
      rw [if_pos registered] at register
      cases refusal with
      | none => exact same
      | some reason =>
        simp only [refusedBy, register]
        exact same
    · rename_i free
      rw [if_neg free] at register
      cases accepted : b.backend.register env id chord with
      | error e =>
        cases refusal with
        | none => exact same
        | some reason =>
          simp only [refusedBy, register, accepted]
          exact same
      | ok granted =>
        obtain ⟨os, backend⟩ := granted
        have granted := accepted
        rw [backed.backend] at granted
        obtain ⟨rfl, rfl⟩ := register_simulated granted
        have enrolled := accounted.enroll backed.numbered (Bool.eq_false_iff.mpr free) chord
        cases refusal with
        | none => exact nothing ⟨_, rfl, enrolled.congr rfl⟩
        | some reason =>
          simp only [refusedBy, register, accepted]
          exact enrolled.settled_release (backed.enroll id chord) env (b.enroll_get?_self ..)
  | unbind id =>
    simp only [Bridge.take, answer, paired.unbind_eq]
    split
    · exact same.congr (clearSlot_handles ..) (clearSlot_backend ..)
    · split <;> exact same
  | unregister env id =>
    simp only [Bridge.take, answer, paired.unregister_eq, refusedBy]
    cases entry : b.handles.live.get? id with
    | none =>
      rw [detached, entry]
      exact same
    | some holding =>
      have settled := accounted.settled_release backed env entry
      cases released : b.backend.release env id holding.os <;>
        simpa only [released] using settled
  | unregisterHandle env h =>
    simp only [Bridge.take, answer, paired.unregisterHandle_eq, refusedBy]
    cases entry : b.handles.live.get? h.id with
    | none =>
      have dead : b.handles.isLive h = false := by simp [Handles.isLive, Handles.handle?, entry]
      simp only [dead]
      exact same
    | some holding =>
      simp only [isLive_eq entry, decide_eq_true_eq]
      split
      · have settled := accounted.settled_release backed env entry
        cases released : b.backend.release env h.id holding.os <;>
          simpa only [released] using settled
      · exact same
  | shutdown env => exact accounted.settled_shutdown backed
  | enter id =>
    simp only [Bridge.take, enter]
    split <;> exact same.congr rfl rfl
  | leave => exact same.congr (leave_handles _) (leave_backend _)
  | listen listeners => exact same.congr rfl rfl

/-! ## Runs -/

/-- The leftovers of a run are all that the system has refused on the way. -/
theorem settled_run (strict : Bool) (moves : List (Move H)) :
    ((new (.simulated {}) strict).run moves).Settled
      ((new (.simulated {}) strict : Bridge H).refusedIn moves) := by
  induction moves using List.reverseRecOn with
  | nil => exact ⟨{}, rfl, (fun _ live => nomatch live), fun _ none => nomatch none⟩
  | append_singleton moves m ih =>
    obtain ⟨s, simulated, accounted⟩ := ih
    obtain ⟨s', backed, -⟩ := new_agrees_run (H := H) true strict moves fun _ => rfl
    cases simulated.symm.trans backed.backend
    have paired : ((new (.simulated {}) strict).run moves).Paired :=
      (new_paired _ strict).run moves
    rw [run_append, refusedIn_append, refusedIn, refusedIn, List.append_nil]
    exact paired.settled_take backed accounted m

/-- Where the registrations of a system come from. Each is either the current registration of its
identifier, under the combination that the bridge has for it, or left over from a release that the
system has refused, and then it is still there. So a live identifier for which no release has been
refused is registered under its own combination only. -/
structure Traceable (left : List Detached) (s : Simulated) (b : Bridge H) : Prop where
  backend : b.backend = .simulated s
  known : ∀ g ∈ s.live, b.Holds g ∧ b.chord? g.id = some g.chord ∨ g.detached ∈ left
  current : ∀ id chord, b.chord? id = some chord → (∀ d ∈ left, d.id ≠ id) →
    ∀ g ∈ s.live, g.id = id → g.chord = chord
  stray : ∀ d ∈ left, ∃ g ∈ s.live, g.detached = d ∧ ¬ b.Holds g

/-- A registration that the bridge holds has the combination of its identifier. -/
theorem Backed.holds_chord? (backed : b.Backed s) {g : Grant} (live : g ∈ s.live)
    (holds : b.Holds g) : b.chord? g.id = some g.chord := by
  obtain ⟨holding, entry, os⟩ := holds
  rw [backed.grant_eq live entry os]
  exact congrArg (Option.map _) entry

/-- What the accounts say about live registrations, put in terms of events. -/
theorem Accounted.traceable (accounted : Accounted left b s) (backed : b.Backed s) :
    b.Traceable left s := by
  have known : ∀ g ∈ s.live, b.Holds g ∧ b.chord? g.id = some g.chord ∨ g.detached ∈ left :=
    fun g live => (accounted.known g live).imp_left fun holds =>
      ⟨holds, backed.holds_chord? live holds⟩
  refine ⟨backed.backend, known, ?_, accounted.stray⟩
  rintro id chord current none g live rfl
  cases known g live with
  | inl held => exact Option.some.inj (held.2.symm.trans current)
  | inr stray => exact absurd rfl (none g.detached stray)

theorem exists_traceable (strict : Bool) (moves : List (Move H)) :
    ∃ s, ((new (.simulated {}) strict).run moves).Traceable
      ((new (.simulated {}) strict : Bridge H).refusedIn moves) s := by
  obtain ⟨s, simulated, accounted⟩ := settled_run (H := H) strict moves
  obtain ⟨s', backed, -⟩ := new_agrees_run (H := H) true strict moves fun _ => rfl
  cases simulated.symm.trans backed.backend
  exact ⟨s, accounted.traceable backed⟩

/-- In every state that a bridge can reach, and in what a dispatch makes of it, what the system has
registered is the bridge's own or left over from a release that the system has refused. What is left
over stays for good. -/
theorem leftovers_run (strict : Bool) (moves : List (Move H)) :
    let start : Bridge H := new (.simulated {}) strict
    let b := start.run moves
    (∃ s, b.Traceable (start.refusedIn moves) s) ∧
    (∀ more, start.refusedIn moves <+: start.refusedIn (moves ++ more)) ∧
    ∀ more b', b.Dispatches more b' →
      ∃ s, b'.Traceable (start.refusedIn (moves ++ more)) s := by
  intro start b
  refine ⟨exists_traceable strict moves, fun more => ?_, fun more b' dispatches => ?_⟩
  · rw [refusedIn_append]
    exact List.prefix_append ..
  · rw [dispatches.run.1]
    exact exists_traceable strict (moves ++ more)

/-- A handler unregisters its own hotkey, but the system does not let go of it. -/
theorem leftovers_run_refused :
    let moves : List (Move Unit) := [.registerAndBind {} none 7 { key := 65 } ()]
    let busy : Conditions := { releaseFault := fun _ => some "busy" }
    let t := Stage.told fun _ : Unit => [.unregister busy 7]
    let b' := (t.dispatch ⟨7, true⟩ ((new (.simulated {}) true).run moves)).2
    b'.chord? 7 = none ∧ ∃ s, b'.backend = .simulated s ∧ ∃ g ∈ s.live, g.id = 7 := by
  intro moves busy t b'
  obtain ⟨-, -, dispatched⟩ := leftovers_run true moves
  obtain ⟨s, traceable⟩ := dispatched _ b'
    (Stage.told_dispatches (fun _ => List.forall_mem_singleton.mpr rfl) ⟨7, true⟩ rfl)
  obtain ⟨g, live, same, -⟩ := traceable.stray ⟨7, .numbered 1⟩ (by decide +kernel)
  exact ⟨by decide +kernel, s, traceable.backend, g, live, congrArg Detached.id same⟩

/-- The system does not let go of the first combination of hotkey 7. The identifier is bound anew
under another combination, and an event from the first one calls the new handler. -/
theorem leftover_calls_new_handler :
    let busy : Conditions := { releaseFault := fun _ => some "busy" }
    let b : Bridge Unit := (new (.simulated {}) true).run
      [.register {} 7 { key := 0x04 }, .unregister busy 7,
        .registerAndBind {} none 7 { key := 0x05 } ()]
    let callback : Unit → Event → Bridge Unit → Ending Bool × Bridge Unit := fun _ =>
      (Stage.alone fun _ b => (.returned true, b)).answer fun _ => {}
    b.chord? 7 = some { key := 0x05 } ∧
      (∃ s g, b.backend = .simulated s ∧ g ∈ s.live ∧ g.id = 7 ∧ g.chord = { key := 0x04 } ∧
        b.chord? g.id ≠ some g.chord) ∧
      ((Router.install {} ()).dispatch callback ⟨7, true⟩ b).1 = true := by
  refine ⟨rfl, ⟨_, ⟨1, 7, { key := 0x04 }⟩, rfl, ?_, rfl, rfl, ?_⟩, rfl⟩
  · exact List.mem_cons_of_mem _ List.mem_cons_self
  · decide

end Hotkeys.Bridge
