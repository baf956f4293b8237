import Hotkeys.Proofs.Bridge.Consistency
import Hotkeys.Proofs.Bridge.Trace

/-!
# What strictness makes of mistakes

A strict bridge aborts where a lenient one fails with a double release, and nothing else is
different. Nothing has changed by then, so both go on from the same tables. This is a simulation in
lockstep: the trace of the one run is the trace of the other one, record by record.
-/

namespace Hotkeys

/-- The outcome on a strict bridge of what has this outcome on a lenient one. -/
def Outcome.harden {α : Type} : Outcome α → Outcome α
  | failed (.doubleRelease id) => aborted (.doubleRelease id)
  | o => o

theorem Outcome.harden_failed {α : Type} {e : Error} (blameless : e.isProgrammingError = false) :
    (failed e : Outcome α).harden = failed e := by
  cases e with
  | doubleRelease id => cases blameless
  | _ => rfl

theorem Outcome.map_harden {α β : Type} (f : α → β) (o : Outcome α) :
    (o.map f).harden = o.harden.map f := by
  cases o with
  | done a => rfl
  | aborted e => rfl
  | failed e => cases e <;> rfl

namespace Bridge

variable {H : Type} {b : Bridge H}

/-- The same bridge, but strict. -/
def harden (b : Bridge H) : Bridge H := { b with strict := true }

/-! ## The changes do not depend on strictness -/

@[simp] theorem harden_backend (b : Bridge H) : b.harden.backend = b.backend := rfl

@[simp] theorem harden_handles (b : Bridge H) : b.harden.handles = b.handles := rfl

@[simp] theorem harden_slots (b : Bridge H) : b.harden.slots = b.slots := rfl

@[simp] theorem harden_running (b : Bridge H) : b.harden.running = b.running := rfl

@[simp] theorem harden_isRegistered (b : Bridge H) (id : HotkeyId) :
    b.harden.isRegistered id = b.isRegistered id := rfl

theorem ite_harden_isRegistered {α : Sort*} (b : Bridge H) (id : HotkeyId) (x y : α) :
    (if b.harden.isRegistered id then x else y) = if b.isRegistered id then x else y := rfl

theorem ite_harden_isBound {α : Sort*} (b : Bridge H) (id : HotkeyId) (x y : α) :
    (if b.harden.isBound id then x else y) = if b.isBound id then x else y := rfl

@[simp] theorem harden_holds (b : Bridge H) (c : Cell H) : b.harden.holds c = b.holds c := rfl

theorem reclaim_harden (b : Bridge H) (c : Cell H) :
    b.harden.reclaim c = (b.reclaim c).harden := by
  unfold reclaim
  rw [harden_holds]
  split <;> rfl

theorem discard_harden (b : Bridge H) (id : HotkeyId) (handler : H) :
    b.harden.discard id handler = (b.discard id handler).harden :=
  reclaim_harden (b.store id handler).2 _

theorem clearSlot_harden (b : Bridge H) (id : HotkeyId) :
    b.harden.clearSlot id = (b.clearSlot id).harden := by
  unfold clearSlot
  rw [harden_slots]
  cases b.slots.get? id with
  | none => rfl
  | some c => exact reclaim_harden { b with slots := b.slots.erase id } c

theorem withdraw_harden (b : Bridge H) (id : HotkeyId) (backend : Backend) :
    b.harden.withdraw id backend = (b.withdraw id backend).harden := by
  unfold withdraw
  rw [harden_slots]
  cases b.slots.get? id with
  | none => rfl
  | some c =>
    exact reclaim_harden
      { b with
        handles := { b.handles with live := b.handles.live.erase id }
        slots := b.slots.erase id
        backend } c

theorem foldl_reclaim_harden (cells : List (Cell H)) (b : Bridge H) :
    cells.foldl reclaim b.harden = (cells.foldl reclaim b).harden := by
  induction cells generalizing b with
  | nil => rfl
  | cons c rest ih => rw [List.foldl_cons, List.foldl_cons, reclaim_harden, ih]

theorem shutdown_harden (b : Bridge H) (env : Conditions) :
    b.harden.shutdown env = ((b.shutdown env).1, (b.shutdown env).2.harden) := by
  simp only [shutdown, releaseAll_eq]
  exact congrArg _ (foldl_reclaim_harden b.slots.values
    { b with
      handles := b.handles.detachAll.2
      slots := .empty
      backend := releaseEach env b.backend b.handles.detachAll.1 })

theorem leave_harden (b : Bridge H) : b.harden.leave = b.leave.harden := by
  unfold leave
  rw [harden_running]
  cases b.running with
  | nil => rfl
  | cons frame rest =>
    cases frame with
    | none => rfl
    | some c => exact reclaim_harden { b with running := rest } c

theorem enter_harden (b : Bridge H) (id : HotkeyId) :
    b.harden.enter id = (b.enter id).map harden := by
  unfold enter
  rw [harden_isRegistered]
  split <;> rfl

/-- A strict bridge cannot be told from a lenient one by what dispatches look at. -/
theorem harden_unnoticed : Unnoticed (harden : Bridge H → Bridge H) where
  listeners _ := rfl
  listen _ _ := rfl
  enter := enter_harden
  current? _ := rfl
  leave := leave_harden

/-! ## One move -/

theorem report_doubleRelease_eq {α : Type} (b : Bridge H) (id : HotkeyId) :
    (b.report (.doubleRelease id) : Outcome α) =
      if b.strict then .aborted (.doubleRelease id) else .failed (.doubleRelease id) := by
  simp [report, Error.isProgrammingError]

theorem report_harden {α : Type} (lenient : b.strict = false) (id : HotkeyId) :
    (b.harden.report (.doubleRelease id) : Outcome α) =
      (b.report (.doubleRelease id) : Outcome α).harden := by
  simp [report_doubleRelease_eq, lenient, harden, Outcome.harden]

/-- A strict bridge takes a move as a lenient one does, but for the abort. -/
theorem Paired.take_harden (paired : b.Paired) (lenient : b.strict = false) (m : Move H) :
    b.harden.take m = ((b.take m).1.harden, (b.take m).2.harden) := by
  have hardened : b.harden.Paired := paired
  cases m with
  | register env id chord =>
    simp only [Bridge.take, answer, Outcome.map_harden, paired.register_eq, hardened.register_eq,
      ite_harden_isRegistered, harden_backend]
    split
    · rfl
    · split
      · rw [Outcome.harden_failed (Backend.isProgrammingError_of_register ‹_›)]
      · rfl
  | bind refusal id handler =>
    simp only [Bridge.take, answer, Outcome.map_harden, paired.bind_eq, hardened.bind_eq,
      ite_harden_isRegistered, ite_harden_isBound, discard_harden]
    split
    · rfl
    · split
      · rfl
      · split <;> rfl
  | registerAndBind env refusal id chord handler =>
    simp only [Bridge.take, answer, Outcome.map_harden, paired.registerAndBind_eq,
      hardened.registerAndBind_eq, ite_harden_isRegistered, harden_backend]
    split
    · rfl
    · split
      · rw [Outcome.harden_failed (Backend.isProgrammingError_of_register ‹_›)]
      · split
        · rfl
        · exact congrArg _ (withdraw_harden (b.enroll id chord _ _) ..)
  | unbind id =>
    simp only [Bridge.take, answer, Outcome.map_harden, paired.unbind_eq, hardened.unbind_eq,
      ite_harden_isRegistered, ite_harden_isBound, clearSlot_harden, report_harden lenient]
    split
    · rfl
    · split <;> rfl
  | unregister env id =>
    simp only [Bridge.take, answer, Outcome.map_harden, paired.unregister_eq,
      hardened.unregister_eq, harden_handles, harden_backend, withdraw_harden]
    split
    · rfl
    · split
      · rfl
      · rw [Outcome.harden_failed (Backend.isProgrammingError_of_release ‹_›)]
  | unregisterHandle env h =>
    simp only [Bridge.take, answer, Outcome.map_harden, paired.unregisterHandle_eq,
      hardened.unregisterHandle_eq, harden_handles, harden_backend, withdraw_harden,
      report_harden lenient]
    split
    · rfl
    · split
      · split
        · rfl
        · rw [Outcome.harden_failed (Backend.isProgrammingError_of_release ‹_›)]
      · rfl
  | shutdown env =>
    simp only [Bridge.take, shutdown_harden]
    rfl
  | enter id =>
    simp only [Bridge.take, enter_harden]
    cases b.enter id <;> rfl
  | leave => exact congrArg _ (leave_harden b)
  | listen listeners => rfl

/-- A move is a mistake about one identifier at most. -/
theorem Mistakes.id_eq {m : Move H} {id id' : HotkeyId} (mistakes : b.Mistakes id m)
    (mistakes' : b.Mistakes id' m) : id = id' := by
  cases m with
  | unbind other => exact mistakes.1.symm.trans mistakes'.1
  | unregisterHandle env h => exact mistakes.1.symm.trans mistakes'.1
  | _ => cases mistakes

namespace Verdict

variable {m : Move H} {o : Outcome Answer} {b' : Bridge H}

/-- A lenient bridge aborts nothing and reports each mistake as a double release. -/
theorem of_lenient (verdict : Verdict b m (o, b')) (lenient : b.strict = false) :
    (∀ e, o ≠ .aborted e) ∧ ∀ id, o = .failed (.doubleRelease id) ↔ b.Mistakes id m := by
  cases verdict with
  | mistake mistakes =>
    rw [report_doubleRelease_eq, lenient]
    refine ⟨nofun, fun id => ⟨?_, ?_⟩⟩
    · rintro ⟨⟩
      exact mistakes
    · intro mistakes'
      rw [mistakes.id_eq mistakes']
      rfl
  | blameless careful blameless =>
    refine ⟨?_, fun id => ⟨?_, fun mistakes => absurd mistakes (careful id)⟩⟩
    · rintro e rfl
      cases blameless
    · rintro rfl
      cases blameless with
      | failed blameless => cases blameless

/-- A strict bridge aborts on mistakes only, and it changes nothing then. -/
theorem of_strict (verdict : Verdict b m (o, b')) (strict : b.strict = true) (e : Error) :
    (o = .aborted e ↔ ∃ id, e = .doubleRelease id ∧ b.Mistakes id m) ∧
      (o = .aborted e → b' = b) := by
  cases verdict with
  | mistake mistakes =>
    rw [report_doubleRelease_eq, strict]
    refine ⟨⟨?_, ?_⟩, fun _ => rfl⟩
    · rintro ⟨⟩
      exact ⟨_, rfl, mistakes⟩
    · rintro ⟨id, rfl, mistakes'⟩
      rw [mistakes.id_eq mistakes']
      rfl
  | blameless careful blameless =>
    refine ⟨⟨?_, ?_⟩, ?_⟩
    · rintro rfl
      cases blameless
    · rintro ⟨id, -, mistakes⟩
      exact absurd mistakes (careful id)
    · rintro rfl
      cases blameless

end Verdict

/-! ## Traces -/

/-- What is recorded of a strict bridge where this is recorded of a lenient one. -/
def Incident.harden : Incident H → Incident H
  | .moved m outcome => .moved m outcome.harden
  | incident => incident

def Record.harden (r : Record H) : Record H where
  before := r.before.harden
  incident := r.incident.harden
  after := r.after.harden

namespace Traced

def harden (s : Traced H) : Traced H where
  bridge := s.bridge.harden
  trace := s.trace.map Record.harden

variable {conduct : H → Conduct H} {depth : Nat} {s : Traced H}

/-- A move of the strict bridge is the move of the lenient one, with each mistake made an abort. -/
theorem move_harden (lenient : Regular false s.bridge) (m : Move H) :
    s.harden.move m = (s.move m).harden := by
  have taken := Paired.take_harden lenient.paired lenient.strictness m
  unfold move
  change ({ s.harden with bridge := (s.bridge.harden.take m).2 } : Traced H).note _
    (.moved m (s.bridge.harden.take m).1) = _
  rw [taken]
  rfl

theorem stage_follows_harden (call : H → Traced H → Ending Bool × Traced H) :
    (stage call).Follows (stage call) harden Bridge.harden where
  unnoticed := harden_unnoticed
  bridge _ := rfl
  update {_ _ s} same := congrArg (Traced.mk · (s.trace.map Record.harden)) same
  notice _ _ := rfl

/-- Handlers that act up to a depth come to the same on a strict bridge as on a lenient one. -/
def Hardens (conduct : H → Conduct H) (depth : Nat) : Prop :=
  ∀ handler (s : Traced H), Regular false s.bridge →
    act conduct depth handler s.harden =
      ((act conduct depth handler s).1, (act conduct depth handler s).2.harden)

namespace Hardens

theorem send (hardens : Hardens conduct depth) (lenient : Regular false s.bridge) (e : Event) :
    s.harden.send (act conduct depth) e = (s.send (act conduct depth) e).harden := by
  have same := (stage_follows_harden (act conduct depth)).dispatch (e := e) (s := s) fun b handler
      entered => by
    obtain ⟨⟨moves, heard⟩, -⟩ := (act_lawful conduct depth).announce_enter entered
    have called := hardens handler _ (lenient.run heard)
    dsimp only [stage] at called ⊢
    rw [called]
    rfl
  unfold Traced.send
  rw [same]
  rfl

theorem perform (hardens : Hardens conduct depth) (deeds : List (Deed H))
    (lenient : Regular false s.bridge) :
    perform (act conduct depth) deeds s.harden = (perform (act conduct depth) deeds s).harden := by
  induction deeds generalizing s with
  | nil => rfl
  | cons deed rest ih =>
    cases deed with
    | move m isPlain =>
      unfold Traced.perform
      rw [move_harden lenient]
      exact ih (lenient.take m)
    | dispatch e =>
      unfold Traced.perform
      rw [hardens.send lenient]
      obtain ⟨⟨moves, sent⟩, -⟩ := (act_lawful conduct depth).dispatch_nests e s
      exact ih (lenient.run sent)

end Hardens

/-- Handlers do the same on a strict and on a lenient bridge, however deep they nest. -/
theorem hardens_act (conduct : H → Conduct H) (depth : Nat) : Hardens conduct depth := by
  induction depth with
  | zero => exact fun _ _ _ => rfl
  | succ depth ih => exact fun handler s lenient => congrArg _ (ih.perform _ lenient)

end Traced

/-- What a sound record of a move says. -/
theorem Record.Faithful.verdict {conduct : H → Conduct H} {strict : Bool} {r : Record H}
    (faithful : r.Faithful conduct) (regular : Regular strict r.before) {m : Move H}
    {outcome : Outcome Answer} (moved : r.incident = .moved m outcome) :
    Verdict r.before m (outcome, r.after) := by
  cases faithful with
  | moved =>
    cases moved
    exact regular.paired.verdict m
  | _ => cases moved

/-- The panic of a dispatch is the one of the handler that it has found. -/
theorem Record.Faithful.exists_panicked {conduct : H → Conduct H} {r : Record H}
    (faithful : r.Faithful conduct) {e : Event} {text : String}
    (dispatched : r.incident = .dispatched e (.panicked text)) :
    ∃ c, r.before.slots.get? e.id = some c ∧ (conduct c.handler).ending = .panicked text := by
  cases faithful with
  | answered slot =>
    obtain ⟨rfl, panicked⟩ := Incident.dispatched.inj dispatched
    exact ⟨_, slot, panicked⟩
  | _ => cases dispatched

/-- Strictness only turns the mistakes of the calling program into aborts. With the same handlers
and the same answers of the backend and the store, a strict bridge comes record by record to what a
lenient one comes to, however deep the handlers are nested, but for the double releases, on which it
aborts. These are the moves that are mistakes, and they have changed nothing. No phase is ever
unknown, and a dispatch panics only if the handler that it has found does so. -/
theorem strict_trace (backend : Backend) (conduct : H → Conduct H) (depth : Nat)
    (deeds : List (Deed H)) :
    let run (strict : Bool) : Traced H :=
      Traced.perform (Traced.act conduct depth) deeds (Traced.new backend strict)
    (∀ strict, (run strict).bridge =
      Stage.perform (Stage.act conduct depth) deeds (new backend strict)) ∧
    run true = (run false).harden ∧
    (∀ r ∈ (run false).trace, ∀ m outcome, r.incident = .moved m outcome →
      (∀ e, outcome ≠ .aborted e) ∧
      ∀ id, outcome = .failed (.doubleRelease id) ↔ r.before.Mistakes id m) ∧
    (∀ r ∈ (run true).trace, ∀ m outcome, r.incident = .moved m outcome →
      ∀ e, (outcome = .aborted e ↔ ∃ id, e = .doubleRelease id ∧ r.before.Mistakes id m) ∧
        (outcome = .aborted e → r.after = r.before ∧
          Outcome.abortText e = "hotkey programming error: " ++ e.message)) ∧
    ∀ strict, ∀ r ∈ (run strict).trace,
      (∀ id, (∃ p, r.before.phase id = .done p) ∧ ∃ p, r.after.phase id = .done p) ∧
      ∀ e text, r.incident = .dispatched e (.panicked text) →
        ∃ c, r.before.slots.get? e.id = some c ∧ (conduct c.handler).ending = .panicked text := by
  intro run
  have sound : ∀ strict, (run strict).Sound strict conduct := fun strict =>
    (Traced.new_sound backend strict conduct).perform (Traced.keepsSound strict conduct depth) deeds
  refine ⟨?_, ?_, ?_, ?_, ?_⟩
  · intro strict
    exact Traced.perform_bridge (Traced.act_bridge conduct depth) deeds _
  · exact (Traced.hardens_act conduct depth).perform deeds
      (s := .new backend false) (.new backend false)
  · intro r member m outcome moved
    have regular := (sound false).before r member
    exact (((sound false).faithful r member).verdict regular moved).of_lenient regular.strictness
  · intro r member m outcome moved e
    have regular := (sound true).before r member
    obtain ⟨aborted, unchanged⟩ :=
      (((sound true).faithful r member).verdict regular moved).of_strict regular.strictness e
    exact ⟨aborted, fun stops => ⟨unchanged stops, rfl⟩⟩
  · intro strict r member
    have before := ((sound strict).before r member).paired
    have after := ((sound strict).after r member).paired
    refine ⟨fun id => ⟨⟨_, before.phase_eq id⟩, _, after.phase_eq id⟩, ?_⟩
    intro e text dispatched
    exact ((sound strict).faithful r member).exists_panicked dispatched

end Bridge

end Hotkeys
