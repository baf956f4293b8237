import Hotkeys.Proofs.Bridge.Nested

/-!
# A bridge is never inconsistent

`inconsistentState` is the error of a bridge that finds a slot without a table entry, or a phase
that may not follow another one. The only mistake that a paired bridge can find is that of a caller
who releases something a second time, so no move comes to this error, and every run starts from a
paired bridge.
-/

namespace Hotkeys

/-- The error that an operation fails with or aborts on. -/
def Outcome.error? {α : Type} : Outcome α → Option Error
  | done _ => none
  | failed e | aborted e => some e

namespace Bridge

variable {H : Type} {b : Bridge H}

/-! ## Mistakes of the caller -/

/-- What the move would release of an identifier has been released before. -/
def Mistakes (b : Bridge H) (id : HotkeyId) : Move H → Prop
  | .unbind other => other = id ∧ b.phase id = .done .registered
  | .unregisterHandle _ h => h.id = id ∧ b.handle? id ≠ some h
  | _ => False

/-- An outcome that no mistake of the caller has led to. -/
inductive Blameless {α : Type} : Outcome α → Prop
  | done (a : α) : Blameless (.done a)
  | failed {e : Error} (blameless : e.isProgrammingError = false) : Blameless (.failed e)

theorem Blameless.map {α β : Type} {o : Outcome α} (blameless : Blameless o) (f : α → β) :
    Blameless (o.map f) := by
  cases blameless with
  | done a => exact .done (f a)
  | failed blameless => exact .failed blameless

/-- What becomes of a move: a mistake is reported before anything has changed, and where there is
none there is nothing to report. -/
inductive Verdict (b : Bridge H) (m : Move H) : Outcome Answer × Bridge H → Prop
  | mistake {id : HotkeyId} (mistakes : b.Mistakes id m) :
    Verdict b m (b.report (.doubleRelease id), b)
  | blameless {o : Outcome Answer} {b' : Bridge H} (careful : ∀ id, ¬ b.Mistakes id m)
      (blameless : Blameless o) : Verdict b m (o, b')

theorem report_map {α β : Type} (b : Bridge H) (e : Error) (f : α → β) :
    (b.report e : Outcome α).map f = b.report e := by
  unfold report
  split <;> rfl

/-- What becomes of a move is decided by whether it is a mistake of the caller. -/
theorem Paired.verdict (paired : b.Paired) (m : Move H) : Verdict b m (b.take m) := by
  cases m with
  | register env id chord =>
    refine .blameless (fun _ => False.elim) (.map ?_ _)
    rw [paired.register_eq]
    split
    · exact .failed rfl
    · split
      · exact .failed (Backend.isProgrammingError_of_register ‹_›)
      · exact .done _
  | bind refusal id handler =>
    refine .blameless (fun _ => False.elim) (.map ?_ _)
    rw [paired.bind_eq]
    split
    · exact .failed rfl
    · split
      · exact .failed rfl
      · split
        · exact .done _
        · exact .failed rfl
  | registerAndBind env refusal id chord handler =>
    refine .blameless (fun _ => False.elim) (.map ?_ _)
    rw [paired.registerAndBind_eq]
    split
    · exact .failed rfl
    · split
      · exact .failed (Backend.isProgrammingError_of_register ‹_›)
      · split
        · exact .done _
        · exact .failed rfl
  | unbind id =>
    simp only [Bridge.take, answer, paired.unbind_eq]
    split
    · rename_i bound
      refine .blameless ?_ (.done _)
      rintro _ ⟨rfl, registered⟩
      simp [paired.phase_eq, bound] at registered
    · rename_i unbound
      split
      · rename_i registered
        rw [report_map]
        exact .mistake ⟨rfl, by simp [paired.phase_eq, unbound, registered]⟩
      · rename_i free
        refine .blameless ?_ (.failed rfl)
        rintro _ ⟨rfl, registered⟩
        simp [paired.phase_eq, unbound, free] at registered
  | unregister env id =>
    refine .blameless (fun _ => False.elim) (.map ?_ _)
    rw [paired.unregister_eq]
    split
    · exact .failed rfl
    · split
      · exact .done _
      · exact .failed (Backend.isProgrammingError_of_release ‹_›)
  | unregisterHandle env h =>
    simp only [Bridge.take, answer, paired.unregisterHandle_eq]
    cases entry : b.handles.live.get? h.id with
    | none =>
      dsimp only
      rw [report_map]
      exact .mistake ⟨rfl, by simp [handle?, Handles.handle?, entry]⟩
    | some holding =>
      have current : b.handle? h.id = some ⟨h.id, holding.serial⟩ := congrArg (Option.map _) entry
      dsimp only
      split
      · rename_i same
        refine .blameless ?_ (.map ?_ _)
        · rintro _ ⟨rfl, other⟩
          exact other (by rw [current, same])
        · split
          · exact .done _
          · exact .failed (Backend.isProgrammingError_of_release ‹_›)
      · rename_i other
        rw [report_map]
        refine .mistake ⟨rfl, ?_⟩
        rw [current]
        exact fun same => other (congrArg Handle.serial (Option.some.inj same))
  | shutdown env => exact .blameless (fun _ => False.elim) (.done _)
  | enter id => exact .blameless (fun _ => False.elim) (.done _)
  | leave => exact .blameless (fun _ => False.elim) (.done _)
  | listen listeners => exact .blameless (fun _ => False.elim) (.done _)

/-! ## Soundness -/

/-- A bridge that is sound: whatever has a slot has a table entry. So its phases are known and may be
left again, and no operation finds the bridge inconsistent. -/
structure Consistent (b : Bridge H) : Prop where
  entry : ∀ id c, b.slots.get? id = some c → ∃ holding, b.handles.live.get? id = some holding
  phase : ∀ id, ∃ p, b.phase id = .done p ∧
    (b.isRegistered id = true → p.allows .unregistered = true)
  operation : ∀ m detail, (b.take m).1.error? ≠ some (.inconsistentState detail)

theorem Paired.consistent (paired : b.Paired) : b.Consistent where
  entry id c held := isRegistered_iff.mp (paired id (isBound_iff.mpr ⟨c, held⟩))
  phase id := by
    refine ⟨_, paired.phase_eq id, ?_⟩
    intro registered
    rw [if_pos registered]
    split <;> rfl
  operation m detail failed := by
    have verdict := paired.verdict m
    generalize b.take m = result at verdict failed
    cases verdict with
    | mistake mistakes =>
      unfold report at failed
      split at failed <;> cases failed
    | blameless careful blameless =>
      cases blameless with
      | done a => cases failed
      | failed blameless =>
        cases failed
        cases blameless

/-- A bridge is sound in every state that it can reach, also in the middle of handlers, and so is
whatever a dispatch makes of it. -/
theorem consistent_run (backend : Backend) (strict : Bool) (moves : List (Move H)) :
    let b := (new backend strict).run moves
    b.Consistent ∧ ∀ more b', b.Dispatches more b' → b'.Consistent := by
  intro b
  have sound : ∀ moves : List (Move H), ((new backend strict).run moves).Consistent :=
    fun moves => ((new_paired backend strict).run moves).consistent
  refine ⟨sound moves, fun more b' dispatches => ?_⟩
  rw [dispatches.run.1]
  exact sound (moves ++ more)

/-- A handler that sends an event to itself and then unbinds itself leaves a sound bridge. -/
theorem consistent_run_echo :
    let b := (new (.simulated {}) true).run [.registerAndBind {} none 7 { key := 65 } ()]
    let b' := ((Stage.alone (Stage.act (Stage.echo 7) 2)).dispatch ⟨7, true⟩ b).2
    b'.isRegistered 7 = true ∧ b'.isBound 7 = false ∧ b'.Consistent := by
  intro b b'
  obtain ⟨more, dispatches⟩ : ∃ more, b.Dispatches more b' :=
    Stage.act_dispatches (Stage.echo 7) 2 ⟨7, true⟩ rfl
  have sound := (consistent_run (.simulated {}) true
    [.registerAndBind {} none 7 { key := 65 } ()]).2 more b' dispatches
  exact ⟨by decide +kernel, by decide +kernel, sound⟩

end Bridge

end Hotkeys
