import Hotkeys.Proofs.Bridge.Shutdown

/-!
# Registrations that last

As long as a handle is live nobody else registers its identifier, and it keeps its combination. The
handler that has been bound to it stays until it is unbound; then the slot is open to anyone.
-/

namespace Hotkeys

variable {H : Type}

namespace Bridge

variable {b b' : Bridge H} {r : Bool} {h : Handle} {id : HotkeyId} {holding : Holding}

/-! ## The entry -/

/-- A change leaves the entry of a handle as it is, or the handle is spent. -/
theorem Change.entry (change : Change r b b') (given : h.serial < b.handles.nextSerial)
    (entry : b.handles.live.get? h.id = some holding) :
    b'.handles.Spent h ∨ b'.handles.live.get? h.id = some holding := by
  have given' : h.serial < b'.handles.nextSerial := given.trans_le change.nextSerial_le
  obtain same | ⟨id, os, chord, free, added⟩ | ⟨id, dropped⟩ | emptied := change.handles_cases
  · exact .inr (same ▸ entry)
  · have other : h.id ≠ id := by
      rintro rfl
      simp [Handles.contains, Table.contains, entry] at free
    rw [added]
    exact .inr (Table.get?_insert_eq_some_iff.mpr (.inr ⟨other, entry⟩))
  · by_cases same : h.id = id
    · refine .inl ⟨given', ?_⟩
      rw [dropped, Bool.eq_false_iff]
      intro live
      obtain ⟨_, left, -⟩ := Handles.isLive_iff.mp live
      exact (Table.get?_erase_eq_some_iff.mp left).1 same
    · rw [dropped]
      exact .inr (Table.get?_erase_eq_some_iff.mpr ⟨same, entry⟩)
  · refine .inl ⟨given', ?_⟩
    rw [emptied]
    rfl

/-- A handle that is live at both ends of a run has the same entry there. -/
theorem Paired.entry_run (paired : b.Paired) (given : h.serial < b.handles.nextSerial)
    (start : b.handles.isLive h = true) {moves : List (Move H)}
    (live : (b.run moves).handles.isLive h = true) :
    (b.run moves).handles.live.get? h.id = b.handles.live.get? h.id := by
  obtain ⟨holding, entry, -⟩ := Handles.isLive_iff.mp start
  have kept : h.serial < (b.run moves).handles.nextSerial ∧
      ((b.run moves).handles.Spent h ∨ (b.run moves).handles.live.get? h.id = some holding) := by
    refine paired.run_keeps_of_change (P := fun b' => h.serial < b'.handles.nextSerial ∧
      (b'.handles.Spent h ∨ b'.handles.live.get? h.id = some holding)) ?_ ⟨given, .inr entry⟩
      fun _ => rfl
    rintro b₁ b₂ - ⟨given, spent | entry⟩ change
    · exact ⟨given.trans_le change.nextSerial_le, .inl (change.spent_handle spent)⟩
    · exact ⟨given.trans_le change.nextSerial_le, change.entry given entry⟩
  cases kept.2 with
  | inl spent => exact absurd live (by simp [spent.2])
  | inr same => exact same.trans entry.symm

/-! ## The handler -/

/-- Whether the handler of an identifier has been taken away. -/
def Unbinds (id : HotkeyId) : Move H × Outcome Answer → Prop
  | (.unbind other, .done _) => other = id
  | _ => False

theorem Unbinds.rebinds {entry : Move H × Outcome Answer} (unbinds : Unbinds id entry) :
    rebinds id entry = some none := by
  obtain ⟨m, outcome⟩ := entry
  cases m with
  | unbind other =>
    cases outcome with
    | done a => exact if_pos unbinds
    | failed e => cases unbinds
    | aborted e => cases unbinds
  | _ => cases unbinds

/-- The later part of a log decides about a handler if it says anything about it. -/
theorem lastBound_append {first second : List (Move H × Outcome Answer)}
    (tells : ∃ e ∈ second, rebinds id e ≠ none) :
    lastBound (first ++ second) id = lastBound second id := by
  obtain ⟨e, member, telling⟩ := tells
  unfold lastBound
  rw [List.reverse_append, List.findSome?_append, Option.or_of_isSome]
  exact List.findSome?_isSome_iff.mpr
    ⟨e, List.mem_reverse.mpr member, Option.isSome_iff_ne_none.mpr telling⟩

/-- Of all that can happen to an identifier with a handler, only an unbind gives it another one. -/
theorem Paired.rebinds_eq_none (paired : b.Paired) (bound : b.isBound id = true) {m : Move H}
    (kept : ¬ Unbinds id (m, (b.take m).1)) : rebinds id (m, (b.take m).1) = none := by
  have registered : b.isRegistered id = true := paired id bound
  cases m with
  | register env other chord =>
    by_cases same : other = id
    · subst same
      simp [Bridge.take, answer, paired.register_eq, registered, Outcome.map, rebinds]
    · cases outcome : (b.take (.register env other chord)).1 <;> simp [rebinds, same]
  | bind refusal other handler =>
    by_cases same : other = id
    · subst same
      cases refusal <;> simp [Bridge.take, answer, paired.bind_eq, bound, Outcome.map, rebinds]
    · cases outcome : (b.take (.bind refusal other handler)).1 <;> simp [rebinds, same]
  | registerAndBind env refusal other chord handler =>
    by_cases same : other = id
    · subst same
      simp [Bridge.take, answer, paired.registerAndBind_eq, registered, Outcome.map, rebinds]
    · cases outcome : (b.take (.registerAndBind env refusal other chord handler)).1 <;>
        simp [rebinds, same]
  | unbind other =>
    cases outcome : (b.take (.unbind other)).1 with
    | done a =>
      rw [outcome] at kept
      exact if_neg kept
    | failed e => rfl
    | aborted e => rfl
  | _ => rfl

/-- As long as the handle of a bound identifier is live and nobody unbinds the identifier, the log
says nothing new about its handler. -/
theorem Paired.rebinds_run (paired : b.Paired) (given : h.serial < b.handles.nextSerial)
    (bound : b.isBound h.id = true) {moves : List (Move H)}
    (live : (b.run moves).handles.isLive h = true)
    (kept : ∀ e ∈ b.log moves, ¬ Unbinds h.id e) : ∀ e ∈ b.log moves, rebinds h.id e = none := by
  induction moves generalizing b with
  | nil =>
    intro e member
    cases member
  | cons m rest ih =>
    have paired' : (b.take m).2.Paired := Paired.take paired m
    have given' : h.serial < (b.take m).2.handles.nextSerial :=
      given.trans_le (paired.nextSerial_le_run [m])
    -- a handle that is spent now would not be live at the end
    have live' : (b.take m).2.handles.isLive h = true := by
      by_contra dead
      have spent := paired'.spent_handle_run ⟨given', Bool.eq_false_iff.mpr dead⟩ rest
      exact absurd live (by simp [spent.2])
    have silent := paired.rebinds_eq_none bound (kept _ List.mem_cons_self)
    have bound' : (b.take m).2.isBound h.id = true := by
      have shows := paired.take_shows m h.id
      rw [silent] at shows
      obtain ⟨holding, entry, -⟩ := Handles.isLive_iff.mp live'
      obtain ⟨c, slot⟩ := isBound_iff.mp bound
      exact isBound_iff.mpr ⟨c, (shows (isRegistered_iff.mpr ⟨holding, entry⟩)).2.trans slot⟩
    intro e member
    cases List.mem_cons.mp member with
    | inl first => exact first ▸ silent
    | inr later =>
      exact ih paired' given' bound' live (fun e member => kept e (List.mem_cons_of_mem _ member))
        e later

/-! ## Registering and binding at once -/

section RegisterAndBind

variable {env : Conditions} {refusal : Option String} {chord : Chord} {handler : H}

theorem take_of_registerAndBind
    (took : b.registerAndBind env refusal id chord handler = (.done h, b')) :
    b.take (.registerAndBind env refusal id chord handler) = (.done (.handle h), b') := by
  rw [Bridge.take, answer, took]
  rfl

/-- A registration with a handler leaves a live handle, the combination and a slot. -/
theorem Paired.take_registerAndBind (paired : b.Paired)
    (took : b.take (.registerAndBind env refusal id chord handler) = (.done (.handle h), b')) :
    b'.Paired ∧ h.serial < b'.handles.nextSerial ∧ b'.handle? id = some h ∧
      b'.chord? id = some chord ∧ b'.isBound id = true := by
  have paired' := Paired.take paired (.registerAndBind env refusal id chord handler)
  rw [took] at paired'
  refine ⟨paired', ?_⟩
  cases outcome : b.registerAndBind env refusal id chord handler with
  | mk result after =>
    rw [Bridge.take, answer, outcome] at took
    cases result <;> cases took
    obtain ⟨rfl, -, os, backend, -, rfl⟩ := paired.registerAndBind_done outcome
    have entry := b.enroll_get?_self id chord os backend
    refine ⟨Nat.lt_succ_self _, ?_, ?_, ?_⟩
    · simp [handle?, Handles.handle?, fill_eq, entry]
    · simp [chord?, Handles.chord?, fill_eq, entry]
    · exact isBound_iff.mpr ⟨_, by rw [fill_eq, Table.get?_insert, if_pos rfl]⟩

/-- What is registered and bound at once keeps its combination as long as its handle is live. -/
theorem Paired.chord?_run (paired : b.Paired)
    (took : b.take (.registerAndBind env refusal id chord handler) = (.done (.handle h), b'))
    {moves : List (Move H)} (live : (b'.run moves).handles.isLive h = true) :
    (b'.run moves).chord? id = some chord := by
  obtain ⟨paired', given, current, own, -⟩ := paired.take_registerAndBind took
  obtain ⟨rfl, start⟩ := Handles.handle?_eq_some_iff.mp current
  rw [← own]
  exact congrArg (Option.map (·.chord)) (paired'.entry_run given start live)

/-- The handler of what is registered and bound at once is the one that has come with it until it is
unbound. From then on it is what has been bound since. -/
theorem Paired.lastBound_registerAndBind (paired : b.Paired)
    (took : b.take (.registerAndBind env refusal id chord handler) = (.done (.handle h), b'))
    {moves : List (Move H)} (live : (b'.run moves).handles.isLive h = true)
    (earlier : List (Move H × Outcome Answer)) :
    let log := earlier ++
      (.registerAndBind env refusal id chord handler, .done (.handle h)) :: b'.log moves
    ((∀ e ∈ b'.log moves, ¬ Unbinds id e) → lastBound log id = some handler) ∧
    ((∃ e ∈ b'.log moves, Unbinds id e) → lastBound log id = lastBound (b'.log moves) id) := by
  intro log
  obtain ⟨paired', given, current, -, bound⟩ := paired.take_registerAndBind took
  obtain ⟨rfl, -⟩ := Handles.handle?_eq_some_iff.mp current
  constructor
  · intro kept
    have silent := paired'.rebinds_run given bound live kept
    exact lastBound_eq_some_iff.mpr ⟨earlier, _, _, rfl, if_pos rfl, silent⟩
  · rintro ⟨e, member, unbinds⟩
    have tells : ∃ e ∈ b'.log moves, rebinds h.id e ≠ none :=
      ⟨e, member, by simp [unbinds.rebinds]⟩
    have split : log = (earlier ++
        [(.registerAndBind env refusal h.id chord handler, .done (.handle h))]) ++ b'.log moves :=
      List.append_cons ..
    rw [split]
    exact lastBound_append tells

end RegisterAndBind

/-! ## What an event meets -/

/-- A registered identifier is bound if the log gives a handler to it. -/
theorem phase_run (backend : Backend) (strict : Bool) {moves : List (Move H)}
    (registered : ((new backend strict).run moves).isRegistered id = true) :
    ((new backend strict).run moves).phase id = .done
      (if (lastBound ((new backend strict).log moves) id).isSome then .bound else .registered) := by
  have paired := (new_paired (H := H) backend strict).run moves
  rw [paired.phase_eq, ← slot_run backend strict moves registered, Option.isSome_map,
    if_pos registered]
  rfl

end Bridge

/-- An event for a registered identifier calls the handler that the log gives to it, and nothing
where it gives none. -/
theorem Stage.Lawful.invocations_run {σ : Type} {t : Stage σ H} (lawful : t.Lawful)
    (quiet : t.Quiet) {backend : Backend} {strict : Bool} {moves : List (Bridge.Move H)} {s : σ}
    (reached : t.bridge s = (Bridge.new backend strict).run moves) (env : σ → Conditions)
    {e : Event} (registered : (t.bridge s).isRegistered e.id = true) :
    ∃ ending, t.invocations env e s =
      (Bridge.lastBound ((Bridge.new backend strict).log moves) e.id).toList.map
        fun handler => ⟨handler, e, ending⟩ := by
  cases given : Bridge.lastBound ((Bridge.new backend strict).log moves) e.id with
  | some handler => exact lawful.exists_invocation reached quiet env registered given
  | none =>
    obtain none_called | ⟨_, _, -, other, -⟩ := lawful.invocations_cases reached env e
    · exact ⟨.returned false, none_called⟩
    · cases given.symm.trans other

end Hotkeys
