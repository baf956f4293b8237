import Hotkeys.Proofs.Bridge.Accounts
import Hotkeys.Proofs.Bridge.Nested

/-!
# Operations that commute

Two operations on different identifiers meet in the system alone, which lets a combination be
registered once at a time. If neither registers a combination that the other one registers or gives
up, their order makes no difference but for the serial numbers of handles and the numbers that the
system gives out.
-/

namespace Hotkeys.Bridge

variable {H : Type} {b b' : Bridge H} {s s' : Backend.Simulated} {op other : Operation H}
  {strict : Bool}

/-! ## Serial numbers aside -/

def Answer.withoutSerial : Answer → Answer
  | handle h => handle { h with serial := 0 }
  | a => a

namespace Life

def withoutSerial : Life H → Life H
  | unregistered => unregistered
  | registered h chord => registered { h with serial := 0 } chord
  | bound h chord handler => bound { h with serial := 0 } chord handler

@[simp] theorem withoutSerial_phase (life : Life H) : life.withoutSerial.phase = life.phase := by
  cases life <;> rfl

@[simp] theorem withoutSerial_chord? (life : Life H) : life.withoutSerial.chord? = life.chord? := by
  cases life <;> rfl

@[simp] theorem withoutSerial_handler? (life : Life H) :
    life.withoutSerial.handler? = life.handler? := by
  cases life <;> rfl

end Life

/-- Two results of an operation that differ in serial numbers at most. -/
structure Alike (r r' : Outcome Answer × Life H) : Prop where
  outcome : r.1.map Answer.withoutSerial = r'.1.map Answer.withoutSerial
  life : r.2.withoutSerial = r'.2.withoutSerial

theorem Alike.refl (r : Outcome Answer × Life H) : Alike r r := ⟨rfl, rfl⟩

/-- The serial number of a new handle is just handed on. -/
theorem Life.step_alike (strict : Bool) (m n : Nat) (objection : Option Error) (life : Life H)
    (op : Operation H) :
    Alike (life.step strict ⟨op.id, m⟩ objection op)
      (life.step strict ⟨op.id, n⟩ objection op) := by
  cases op with
  | register env id chord =>
    cases life with
    | unregistered => cases objection <;> exact ⟨rfl, rfl⟩
    | registered | bound => exact .refl _
  | bind | unbind | unregister | unregisterHandle => exact .refl _

/-! ## Independent operations -/

/-- The operations are about different identifiers, and neither registers a combination that the
other one registers or gives up. -/
structure Independent (b : Bridge H) (op other : Operation H) : Prop where
  ids : op.id ≠ other.id
  apart : ∀ chord, op.wants (b.life op.id) = some chord →
    other.wants (b.life other.id) ≠ some chord ∧ other.yields (b.life other.id) ≠ some chord
  apart' : ∀ chord, other.wants (b.life other.id) = some chord →
    op.wants (b.life op.id) ≠ some chord ∧ op.yields (b.life op.id) ≠ some chord

/-- Independence does not depend on which operation comes first. -/
theorem Independent.symm (independent : b.Independent op other) : b.Independent other op :=
  ⟨independent.ids.symm, independent.apart', independent.apart⟩

/-- What is known of every bridge that a run on a simulated system leads to. -/
structure Usual (strict : Bool) (b : Bridge H) : Prop where
  paired : b.Paired
  tidy : b.Tidy []
  backed : ∃ s, b.Backed s
  strict : b.strict = strict

theorem new_usual (strict : Bool) (moves : List (Move H)) :
    Usual strict ((new (.simulated {}) strict).run moves) where
  paired := (new_paired _ strict).run moves
  tidy := new_tidy_run _ strict moves
  backed := by
    obtain ⟨s, backed, -⟩ := new_agrees_run true strict moves fun _ => rfl
    exact ⟨s, backed⟩
  strict := new_strict_run _ strict moves

/-! ## What an operation leaves for the other one -/

/-- An operation leaves the life of any other identifier as it is. -/
theorem Paired.perform_life (paired : b.Paired) {id : HotkeyId} (different : id ≠ op.id) :
    (b.perform op).2.life id = b.life id :=
  (paired.perform_other different (paired.lives id)).life_eq

theorem Paired.perform_freed (paired : b.Paired) {id : HotkeyId} (different : id ≠ op.id) :
    (b.perform op).2.freed id = b.freed id := by
  have running : (b.perform op).2.running = b.running :=
    b.take_running (by cases op <;> rfl)
  have slot : (b.perform op).2.slots.get? id = b.slots.get? id := by
    have effect := paired.effect op
    generalize b.perform op = r at effect ⊢
    cases effect with
    | rejected | enrolled => rfl
    | discarded => rw [discard_slots]
    | filled => simp [fill_eq, Table.get?_insert, different]
    | cleared => simp [Table.get?_erase, different]
    | withdrawn | refused => simp [Table.get?_erase, different]
  rw [freed, freed, slot, running]

/-- A combination is taken if some identifier has it with the system. -/
theorem Backed.isBound_iff (backed : b.Backed s) {chord : Chord} :
    b.backend.isBound chord = true ↔ ∃ id, (id, chord) ∈ b.pairs := by
  rw [backed.pairs_eq, backed.backend]
  simp only [Backend.isBound, Backend.Simulated.isBound, List.any_eq_true, beq_iff_eq,
    Multiset.mem_coe, List.mem_map, Prod.mk.injEq]
  constructor
  · rintro ⟨g, live, rfl⟩
    exact ⟨g.id, g, live, rfl, rfl⟩
  · rintro ⟨id, g, live, -, rfl⟩
    exact ⟨g, live, rfl⟩

theorem eq_of_mem_settled {o : Outcome Answer} {id id' : HotkeyId} {chord? : Option Chord}
    {chord : Chord} (member : (id', chord) ∈ settled o id chord?) : chord? = some chord := by
  unfold settled at member
  split at member
  · rw [Multiset.mem_singleton] at member
    cases member
    rfl
  · exact absurd member (Multiset.notMem_zero _)

/-- A combination that an operation neither registers nor gives up stays as it is for the system. -/
theorem Account.isBound {r : Outcome Answer × Bridge H} (account : b.Account op r)
    (backed : b.Backed s) (backed' : r.2.Backed s') {chord : Chord}
    (unwanted : op.wants (b.life op.id) ≠ some chord)
    (kept : op.yields (b.life op.id) ≠ some chord) :
    r.2.backend.isBound chord = b.backend.isBound chord := by
  have same : ∀ id, (id, chord) ∈ r.2.pairs ↔ (id, chord) ∈ b.pairs := by
    intro id
    have all : (id, chord) ∈ b.pairs + settled r.1 op.id (op.wants (b.life op.id)) ↔
        (id, chord) ∈ r.2.pairs + settled r.1 op.id (op.yields (b.life op.id)) := by
      rw [account.pairs]
    rw [Multiset.mem_add, Multiset.mem_add,
      or_iff_left fun member => unwanted (eq_of_mem_settled member),
      or_iff_left fun member => kept (eq_of_mem_settled member)] at all
    exact all.symm
  rw [Bool.eq_iff_iff, backed.isBound_iff, backed'.isBound_iff]
  exact exists_congr same

/-- A system that has all registrations of the table refuses a release only where it is told to. -/
theorem Backed.releaseObjection?_eq (backed : b.Backed s) (env : Conditions) (id : HotkeyId) :
    b.releaseObjection? env id =
      if b.isRegistered id then (env.releaseFault id).map (.unregistration id) else none := by
  unfold releaseObjection?
  cases entry : b.handles.live.get? id with
  | none => simp [isRegistered, Handles.contains, Table.contains, entry]
  | some holding =>
    have registered : b.isRegistered id = true := isRegistered_iff.mpr ⟨holding, entry⟩
    obtain ⟨n, os, grant⟩ := backed.granted entry
    have taken : s.release id n = .ok (s.remove n) :=
      Backend.Simulated.release_eq_ok_iff.mpr ⟨⟨_, grant, rfl⟩, rfl⟩
    simp only [registered, backed.backend, os, Backend.release, taken]
    cases env.releaseFault id <;> rfl

/-- All that a registration depends on is whether its combination is there already. -/
theorem Backed.registration_objection (backed : b.Backed s) (backed' : b'.Backed s')
    {env : Conditions} {id : HotkeyId} {chord : Chord}
    (same : b'.backend.isBound chord = b.backend.isBound chord) :
    b'.objection? (.register env id chord) = b.objection? (.register env id chord) := by
  simp only [backed.backend, backed'.backend, Backend.isBound] at same
  simp only [objection?, backed.backend, backed'.backend, Backend.register]
  cases env.registrationFault with
  | some reason => rfl
  | none =>
    simp only [Backend.Simulated.register, same]
    cases chord.isValid with
    | false => rfl
    | true => cases s.isBound chord <;> rfl

/-- What an operation comes to is the same before an independent one and after it. -/
theorem Independent.alike (independent : b.Independent op other) (usual : Usual strict b)
    (usual' : Usual strict (b.perform other).2) :
    (b.perform other).2.life op.id = b.life op.id ∧
      Alike (b.next op (b.life op.id)) ((b.perform other).2.next op (b.life op.id)) := by
  obtain ⟨s, backed⟩ := usual.backed
  obtain ⟨s', backed'⟩ := usual'.backed
  have life := usual.paired.perform_life independent.ids
  refine ⟨life, ?_⟩
  generalize after : (b.perform other).2 = b' at *
  have of_objection : b'.objection? op = b.objection? op →
      Alike (b.next op (b.life op.id)) (b'.next op (b.life op.id)) := by
    intro same
    rw [next, next, usual.strict, usual'.strict, same]
    exact Life.step_alike ..
  have release : ∀ env, b'.releaseObjection? env op.id = b.releaseObjection? env op.id := by
    intro env
    have registered : b'.isRegistered op.id = b.isRegistered op.id := by
      rw [(usual'.paired.lives op.id).isRegistered, (usual.paired.lives op.id).isRegistered, life]
    rw [backed.releaseObjection?_eq, backed'.releaseObjection?_eq, registered]
  cases op with
  | register env id chord =>
    cases known : b.life id with
    | unregistered =>
      have wants : Operation.wants (.register env id chord) (b.life id) = some chord := by
        rw [known]
        rfl
      obtain ⟨unwanted, kept⟩ := independent.apart chord wants
      have account := usual.paired.account backed usual.tidy other
      have same := account.isBound backed (after ▸ backed') unwanted kept
      rw [after] at same
      exact known ▸ of_objection (backed.registration_objection backed' same)
    | registered | bound =>
      -- a duplicate, whatever the system would say
      simp only [Operation.id, known]
      exact ⟨rfl, rfl⟩
  | bind | unbind => exact of_objection rfl
  | unregister env id => exact of_objection (release env)
  | unregisterHandle env h => exact of_objection (release env)

/-! ## Both orders -/

theorem settled_map (f : Answer → Answer) (o : Outcome Answer) (id : HotkeyId)
    (chord? : Option Chord) : settled (o.map f) id chord? = settled o id chord? := by
  cases o with
  | done a => cases chord? <;> rfl
  | failed | aborted => rfl

theorem Operation.fills_map (op : Operation H) (f : Answer → Answer) (o : Outcome Answer) :
    op.fills (o.map f) = op.fills o := by
  cases op with
  | bind => cases o <;> rfl
  | register | unbind | unregister | unregisterHandle => rfl

/-- The table is told by the identifiers that are registered. -/
theorem ids_congr (same : ∀ id, b.isRegistered id = b'.isRegistered id) : b.ids = b'.ids := by
  have sorted : ∀ b : Bridge H, b.ids.Pairwise fun id id' => decide (id ≤ id') = true := by
    intro b
    refine List.pairwise_mergeSort ?_ ?_ _
    · intro id id' id'' first second
      exact decide_eq_true
        (UInt32.le_trans (of_decide_eq_true first) (of_decide_eq_true second))
    · intro id id'
      simpa using UInt32.le_total id id'
  have perm : b.ids.Perm b'.ids := by
    refine (List.mergeSort_perm ..).trans (.trans ?_ (List.mergeSort_perm ..).symm)
    refine (List.perm_ext_iff_of_nodup b.handles.live.nodup_keys b'.handles.live.nodup_keys).mpr ?_
    intro id
    exact Table.contains_iff_mem_keys.symm.trans
      ((Bool.eq_iff_iff.mp (same id)).trans Table.contains_iff_mem_keys)
  refine perm.eq_of_pairwise ?_ (sorted b) (sorted b')
  intro id id' _ _ first second
  exact UInt32.le_antisymm (of_decide_eq_true first) (of_decide_eq_true second)

/-- What becomes of an identifier that one of two independent operations is about. -/
theorem Independent.alike_after (independent : b.Independent op other) (usual : Usual strict b)
    (before : Usual strict (b.perform op).2) (usual' : Usual strict (b.perform other).2) :
    Alike ((b.perform op).1, ((b.perform op).2.perform other).2.life op.id)
      (((b.perform other).2.perform op).1, ((b.perform other).2.perform op).2.life op.id) := by
  obtain ⟨life, alike⟩ := independent.alike usual usual'
  obtain ⟨outcome, lives⟩ := usual.paired.follows op
  obtain ⟨outcome', lives'⟩ := usual'.paired.follows op
  rw [life] at outcome' lives'
  rw [before.paired.perform_life independent.ids, outcome, outcome', lives.life_eq, lives'.life_eq]
  exact alike

/-- What is added and taken away twice may be added and taken away in either order. -/
theorem add_exchange {M : Type} [AddCancelCommMonoid M]
    {m m₁ m₂ m₁₂ m₂₁ more₁ less₁ more₂ less₂ : M}
    (first : m + more₁ = m₁ + less₁) (second : m₁ + more₂ = m₁₂ + less₂)
    (first' : m + more₂ = m₂ + less₂) (second' : m₂ + more₁ = m₂₁ + less₁) : m₁₂ = m₂₁ := by
  refine add_right_cancel (b := less₂ + less₁) ?_
  calc m₁₂ + (less₂ + less₁) = m₁₂ + less₂ + less₁ := (add_assoc ..).symm
    _ = m₁ + less₁ + more₂ := by rw [← second, add_right_comm]
    _ = m + more₂ + more₁ := by rw [← first, add_right_comm]
    _ = m₂ + more₁ + less₂ := by rw [first', add_right_comm]
    _ = m₂₁ + (less₂ + less₁) := by rw [second', add_assoc, add_comm less₁]

/-- Both orders leave the same pairs with the system and the same number of cells. -/
theorem Independent.accounts (independent : b.Independent op other) (usual : Usual strict b)
    (before : Usual strict (b.perform op).2) (before' : Usual strict (b.perform other).2)
    (same : (b.perform op).1.map Answer.withoutSerial =
      ((b.perform other).2.perform op).1.map Answer.withoutSerial)
    (same' : (b.perform other).1.map Answer.withoutSerial =
      ((b.perform op).2.perform other).1.map Answer.withoutSerial) :
    ((b.perform op).2.perform other).2.pairs = ((b.perform other).2.perform op).2.pairs ∧
      ((b.perform op).2.perform other).2.counter = ((b.perform other).2.perform op).2.counter := by
  obtain ⟨s, backed⟩ := usual.backed
  obtain ⟨s₁, backed₁⟩ := before.backed
  obtain ⟨s₂, backed₂⟩ := before'.backed
  have first := usual.paired.account backed usual.tidy op
  have second := before.paired.account backed₁ before.tidy other
  have first' := usual.paired.account backed usual.tidy other
  have second' := before'.paired.account backed₂ before'.tidy op
  have life := usual.paired.perform_life independent.ids.symm
  have life' := usual.paired.perform_life independent.ids
  have freed := usual.paired.perform_freed independent.ids.symm
  have freed' := usual.paired.perform_freed independent.ids
  have settled_eq : ∀ {o o' : Outcome Answer} {id chord?},
      o.map Answer.withoutSerial = o'.map Answer.withoutSerial →
        settled o id chord? = settled o' id chord? := by
    intro o o' id chord? same
    rw [← settled_map Answer.withoutSerial, same, settled_map]
  have fills_eq : ∀ {o o' : Outcome Answer} {op : Operation H},
      o.map Answer.withoutSerial = o'.map Answer.withoutSerial → op.fills o = op.fills o' := by
    intro o o' op same
    rw [← op.fills_map Answer.withoutSerial, same, op.fills_map]
  refine ⟨add_exchange first.pairs ?_ first'.pairs ?_,
    add_exchange first.cells.symm ?_ first'.cells.symm ?_⟩
  · rw [settled_eq same', settled_eq same', ← life]
    exact second.pairs
  · rw [settled_eq same, settled_eq same, ← life']
    exact second'.pairs
  · rw [fills_eq same', ← life, ← freed]
    exact second.cells.symm
  · rw [fills_eq same, ← life', ← freed']
    exact second'.cells.symm

/-- In every state that a bridge can reach, the order of two operations on different identifiers
makes no difference if neither registers a combination that the other one registers or gives up.
Each comes to the same but for the serial number of a new handle, and afterwards the bridge has the
same identifiers with the same combinations, phases and handlers and holds as many cells, and the
system has the same combinations registered for the same identifiers. -/
theorem independent_run (strict : Bool) (moves : List (Move H)) (op other : Operation H)
    (independent : ((new (.simulated {}) strict).run moves).Independent op other) :
    let b := (new (.simulated {}) strict).run moves
    let r := (b.perform op).2.perform other
    let r' := (b.perform other).2.perform op
    (b.perform op).1.map Answer.withoutSerial = r'.1.map Answer.withoutSerial ∧
    (b.perform other).1.map Answer.withoutSerial = r.1.map Answer.withoutSerial ∧
    r.2.ids = r'.2.ids ∧
    (∀ id, r.2.chord? id = r'.2.chord? id ∧ r.2.phase id = r'.2.phase id ∧
      r.2.handler? id = r'.2.handler? id) ∧
    (∃ s s', r.2.backend = .simulated s ∧ r'.2.backend = .simulated s' ∧
      (s.live.map fun g => (g.id, g.chord)).Perm (s'.live.map fun g => (g.id, g.chord))) ∧
    r.2.liveSlots = r'.2.liveSlots := by
  intro b r r'
  have usual : ∀ more, Usual strict (b.run more) := by
    intro more
    have all : b.run more = (new (.simulated {}) strict).run (moves ++ more) := (run_append ..).symm
    exact all ▸ new_usual strict (moves ++ more)
  have start : Usual strict b := usual []
  have one : ∀ op : Operation H, Usual strict (b.perform op).2 := fun op => usual [op.move]
  have two : ∀ op op' : Operation H, Usual strict ((b.perform op).2.perform op').2 :=
    fun op op' => usual [op.move, op'.move]
  have alike := independent.alike_after start (one op) (one other)
  have alike' := independent.symm.alike_after start (one other) (one op)
  have lives : ∀ id, (r.2.life id).withoutSerial = (r'.2.life id).withoutSerial := by
    intro id
    by_cases mine : id = op.id
    · rw [mine]
      exact alike.life
    · by_cases yours : id = other.id
      · rw [yours]
        exact alike'.life.symm
      · have kept : r.2.life id = b.life id :=
          ((one op).paired.perform_life yours).trans (start.paired.perform_life mine)
        have kept' : r'.2.life id = b.life id :=
          ((one other).paired.perform_life mine).trans (start.paired.perform_life yours)
        rw [kept, kept']
  have tables : ∀ id, r.2.chord? id = r'.2.chord? id ∧ r.2.phase id = r'.2.phase id ∧
      r.2.handler? id = r'.2.handler? id := by
    intro id
    have after := (two op other).paired.lives id
    have after' := (two other op).paired.lives id
    refine ⟨?_, ?_, ?_⟩
    · rw [after.chord?, after'.chord?, ← Life.withoutSerial_chord?, lives,
        Life.withoutSerial_chord?]
    · rw [after.phase, after'.phase, ← Life.withoutSerial_phase, lives, Life.withoutSerial_phase]
    · rw [after.handler?, after'.handler?, ← Life.withoutSerial_handler?, lives,
        Life.withoutSerial_handler?]
  have ids : r.2.ids = r'.2.ids := by
    refine ids_congr fun id => ?_
    rw [((two op other).paired.lives id).isRegistered,
      ((two other op).paired.lives id).isRegistered, ← Life.withoutSerial_phase, lives,
      Life.withoutSerial_phase]
  have accounts := independent.accounts start (one op) (one other) alike.outcome alike'.outcome
  obtain ⟨s, backed⟩ := (two op other).backed
  obtain ⟨s', backed'⟩ := (two other op).backed
  refine ⟨alike.outcome, alike'.outcome, ids, tables,
    ⟨s, s', backed.backend, backed'.backend, ?_⟩, ?_⟩
  · rw [← Multiset.coe_eq_coe, ← backed.pairs_eq, ← backed'.pairs_eq]
    exact accounts.1
  · rw [liveSlots, liveSlots]
    exact congrArg Int.toNat accounts.2

/-- One identifier is registered while another one gives its combination up. -/
theorem independent_run_release :
    let b : Bridge Unit := (new (.simulated {}) true).run [.register {} 1 { key := 0x04 }]
    let op : Operation Unit := .register {} 2 { key := 0x05 }
    let other : Operation Unit := .unregister {} 1
    b.Independent op other ∧ ∃ s s',
      ((b.perform op).2.perform other).2.backend = .simulated s ∧
      ((b.perform other).2.perform op).2.backend = .simulated s' ∧
      (s.live.map fun g => (g.id, g.chord)).Perm (s'.live.map fun g => (g.id, g.chord)) := by
  intro b op other
  have independent : b.Independent op other := by
    refine ⟨by decide, ?_, ?_⟩
    · rintro chord ⟨⟩
      exact ⟨nofun, by decide⟩
    · exact nofun
  obtain ⟨-, -, -, -, system, -⟩ := independent_run true _ op other independent
  exact ⟨independent, system⟩

end Hotkeys.Bridge
