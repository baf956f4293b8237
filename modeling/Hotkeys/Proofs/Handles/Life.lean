import Hotkeys.Proofs.Handles.Basic
import Hotkeys.Proofs.Ledger

/-!
# The life of a handle

A handle is live from the registration that gives it out to the first move that takes it out of the
table, and never again. Both are read off the log of a run, which has the moves with their answers.

## Implementation notes

The backend may become any other one between two moves. So each call to it may be accepted or
refused, whatever has become of the calls before.
-/

namespace Hotkeys

/-- A table of handles and the backend that it registers with. -/
structure Registrar where
  handles : Handles := {}
  backend : Backend

namespace Registrar

inductive Move
  | register (env : Conditions) (id : HotkeyId) (chord : Chord)
  | unregister (env : Conditions) (h : Handle)
  | detach (h : Handle)
  | detachAll
  /-- Something that has been taken out of the table is released. -/
  | release (env : Conditions) (d : Detached)
  /-- Something happens to the backend without the table. -/
  | drift (backend : Backend)

inductive Answer
  | unit
  | handle (h : Handle)
  | detached (ds : List Detached)
  deriving DecidableEq, Repr

def take (r : Registrar) : Move → Except Error Answer × Registrar
  | .register env id chord =>
    match r.handles.register r.backend env id chord with
    | .error e => (.error e, r)
    | .ok (h, handles, backend) => (.ok (.handle h), { handles, backend })
  | .unregister env h =>
    let (result, handles, backend) := r.handles.unregister r.backend env h
    (result.map fun _ => .unit, { handles, backend })
  | .detach h =>
    match r.handles.detach h with
    | .error e => (.error e, r)
    | .ok (d, handles) => (.ok (.detached [d]), { r with handles })
  | .detachAll =>
    let (ds, handles) := r.handles.detachAll
    (.ok (.detached ds), { r with handles })
  | .release env d =>
    match d.release r.backend env with
    | .error e => (.error e, r)
    | .ok backend => (.ok .unit, { r with backend })
  | .drift backend => (.ok .unit, { r with backend })

def run (r : Registrar) : List Move → Registrar
  | [] => r
  | m :: rest => (r.take m).2.run rest

/-- A move and its answer. -/
structure Entry where
  move : Move
  answer : Except Error Answer

/-- The moves of a run with their answers, the earliest first. -/
def log (r : Registrar) : List Move → List Entry
  | [] => []
  | m :: rest => ⟨m, (r.take m).1⟩ :: (r.take m).2.log rest

theorem run_append (r : Registrar) (first second : List Move) :
    r.run (first ++ second) = (r.run first).run second := by
  induction first generalizing r with
  | nil => rfl
  | cons m rest ih => exact ih _

theorem log_append (r : Registrar) (first second : List Move) :
    r.log (first ++ second) = r.log first ++ (r.run first).log second := by
  induction first generalizing r with
  | nil => rfl
  | cons m rest ih => exact congrArg (_ :: ·) (ih _)

/-! ## What the log says -/

/-- The handle that a registration has given out. -/
def Entry.given? : Entry → Option Handle
  | ⟨.register .., .ok (.handle h)⟩ => some h
  | _ => none

/-- Whether the move has taken the handle out of the table. A handle that is unregistered is gone
even where the backend has refused the release. -/
def Entry.Removes (h : Handle) : Entry → Prop
  | ⟨.detach h', .ok _⟩ | ⟨.unregister _ h', .ok _⟩ => h' = h
  | ⟨.unregister _ h', .error e⟩ => h' = h ∧ e ≠ .doubleRelease h.id
  | ⟨.detachAll, _⟩ => True
  | _ => False

/-- All handles that have been given out, in their order. -/
def issued (entries : List Entry) : List Handle := entries.filterMap Entry.given?

/-- The handle has been given out and not been taken out of the table since. -/
def Outstanding (entries : List Entry) (h : Handle) : Prop :=
  ∃ earlier entry later, entries = earlier ++ entry :: later ∧ entry.given? = some h ∧
    ∀ e ∈ later, ¬ e.Removes h

variable {entries : List Entry} {entry : Entry} {h : Handle}

theorem issued_concat :
    issued (entries ++ [entry]) = issued entries ++ entry.given?.toList := by
  unfold issued
  rw [List.filterMap_append]
  cases given : entry.given? <;> simp [given]

/-- What is outstanding after one more entry. -/
theorem outstanding_concat :
    Outstanding (entries ++ [entry]) h ↔
      entry.given? = some h ∨ Outstanding entries h ∧ ¬ entry.Removes h :=
  stands_concat

/-! ## One move -/

section Step

variable (r : Registrar)

/-- A new handle has the next serial number. -/
theorem take_given (m : Move) :
    (∀ h, Entry.given? ⟨m, (r.take m).1⟩ = some h →
      h.serial = r.handles.nextSerial ∧ h.serial < (r.take m).2.handles.nextSerial) ∧
    r.handles.nextSerial ≤ (r.take m).2.handles.nextSerial := by
  cases m with
  | register env id chord =>
    simp only [take, Handles.register_eq]
    split
    · exact ⟨by rintro _ ⟨⟩, Nat.le_refl _⟩
    · rename_i accepted
      split at accepted
      · cases accepted
      · split at accepted <;> cases accepted
        refine ⟨?_, Nat.le_succ _⟩
        rintro _ ⟨⟩
        exact ⟨rfl, Nat.lt_succ_self _⟩
  | unregister env h =>
    refine ⟨by rintro _ ⟨⟩, ?_⟩
    cases live : r.handles.isLive h with
    | false => simp [take, Handles.unregister_of_not_isLive live]
    | true =>
      obtain ⟨result, backend, unregistered, -⟩ :=
        Handles.unregister_of_isLive live r.backend env
      simp [take, unregistered, Handles.drop]
  | detach h =>
    refine ⟨by rintro _ ⟨⟩, ?_⟩
    cases live : r.handles.isLive h with
    | false => simp [take, Handles.detach_of_not_isLive live]
    | true =>
      obtain ⟨os, detached⟩ := Handles.detach_of_isLive live
      simp [take, detached, Handles.drop]
  | detachAll => exact ⟨by rintro _ ⟨⟩, Nat.le_refl _⟩
  | release env d =>
    refine ⟨by rintro _ ⟨⟩, ?_⟩
    simp only [take]
    split <;> exact Nat.le_refl _
  | drift backend => exact ⟨by rintro _ ⟨⟩, Nat.le_refl _⟩

/-- What is live after a move is what the move has given out, and what was live before and has not
been taken out by the move. -/
theorem take_isLive (m : Move) (h : Handle) :
    (r.take m).2.handles.isLive h = true ↔
      Entry.given? ⟨m, (r.take m).1⟩ = some h ∨
        r.handles.isLive h = true ∧ ¬ Entry.Removes h ⟨m, (r.take m).1⟩ := by
  cases m with
  | register env id chord =>
    simp only [take, Handles.register_eq]
    split
    · simp [Entry.given?, Entry.Removes]
    · rename_i accepted
      split at accepted
      · cases accepted
      · rename_i free
        split at accepted <;> cases accepted
        rw [Handles.isLive_add (Bool.eq_false_iff.mpr free)]
        simp [Entry.given?, Entry.Removes, eq_comm (a := h)]
  | unregister env h' =>
    cases live : r.handles.isLive h' with
    | false =>
      simp only [take, Handles.unregister_of_not_isLive live]
      simp only [Except.map, Entry.given?, Entry.Removes]
      constructor
      · intro kept
        refine .inr ⟨kept, ?_⟩
        rintro ⟨rfl, different⟩
        exact different rfl
      · rintro (⟨⟨⟩⟩ | ⟨kept, -⟩)
        exact kept
    | true =>
      obtain ⟨result, backend, unregistered, answer⟩ :=
        Handles.unregister_of_isLive live r.backend env
      simp only [take, unregistered, Handles.isLive_drop live]
      cases result with
      | ok _ => simp [Except.map, Entry.given?, Entry.Removes]
      | error e =>
        simp only [Except.map, Entry.given?, Entry.Removes]
        have refused : e ≠ .doubleRelease h'.id := by
          rintro rfl
          exact answer rfl
        constructor
        · rintro ⟨kept, different⟩
          exact .inr ⟨kept, fun removed => different removed.1⟩
        · rintro (⟨⟨⟩⟩ | ⟨kept, removed⟩)
          refine ⟨kept, ?_⟩
          rintro rfl
          exact removed ⟨rfl, refused⟩
  | detach h' =>
    cases live : r.handles.isLive h' with
    | false => simp [take, Handles.detach_of_not_isLive live, Entry.given?, Entry.Removes]
    | true =>
      obtain ⟨os, detached⟩ := Handles.detach_of_isLive live
      simp [take, detached, Handles.isLive_drop live, Entry.given?, Entry.Removes]
  | detachAll => simp [take, Handles.isLive_detachAll, Entry.given?, Entry.Removes]
  | release env d =>
    simp only [take]
    split <;> simp [Entry.given?, Entry.Removes]
  | drift backend => simp [take, Entry.given?, Entry.Removes]

theorem take_spent (m : Move) (spent : r.handles.Spent h) : (r.take m).2.handles.Spent h := by
  obtain ⟨given, later⟩ := r.take_given m
  refine ⟨Nat.lt_of_lt_of_le spent.1 later, Bool.eq_false_iff.mpr fun live => ?_⟩
  cases (r.take_isLive m h).mp live with
  | inl new => exact absurd (given h new).1 (Nat.ne_of_lt spent.1)
  | inr old => exact absurd old.1 (by simp [spent.2])

/-- A handle that is dead stays so. -/
theorem run_spent (spent : r.handles.Spent h) (moves : List Move) :
    (r.run moves).handles.Spent h := by
  induction moves generalizing r with
  | nil => exact spent
  | cons m rest ih => exact ih _ (r.take_spent m spent)

end Step

/-! ## Runs -/

/-- What a log says about the table at its end. -/
structure Records (entries : List Entry) (t : Handles) : Prop where
  nodup : (issued entries).Nodup
  older : ∀ h ∈ issued entries, h.serial < t.nextSerial
  live : ∀ h, t.isLive h = true ↔ Outstanding entries h

/-- The log stays true to the table with each move. -/
theorem Records.take {r : Registrar} (records : Records entries r.handles) (m : Move) :
    Records (entries ++ [⟨m, (r.take m).1⟩]) (r.take m).2.handles := by
  obtain ⟨given, later⟩ := r.take_given m
  have older : ∀ h ∈ issued (entries ++ [⟨m, (r.take m).1⟩]),
      h.serial < (r.take m).2.handles.nextSerial := by
    intro h member
    rw [issued_concat] at member
    cases List.mem_append.mp member with
    | inl old => exact Nat.lt_of_lt_of_le (records.older h old) later
    | inr new => exact (given h (Option.mem_toList.mp new)).2
  refine ⟨?_, older, ?_⟩
  · rw [issued_concat, List.nodup_append]
    refine ⟨records.nodup, ?_, ?_⟩
    · cases Entry.given? ⟨m, (r.take m).1⟩ <;> simp
    · rintro h old _ new rfl
      exact absurd (given h (Option.mem_toList.mp new)).1 (Nat.ne_of_lt (records.older h old))
  · intro h
    rw [r.take_isLive, outstanding_concat, records.live]

/-- The log of a run is true to the table that the run has made. -/
theorem records_run (backend : Backend) (moves : List Move) :
    Records (log { backend } moves) (run { backend } moves).handles := by
  induction moves using List.reverseRecOn with
  | nil =>
    refine ⟨List.nodup_nil, (fun _ given => nomatch given), fun h => ⟨nofun, ?_⟩⟩
    rintro ⟨earlier, entry, later, split, -⟩
    simp [log] at split
  | append_singleton moves m ih =>
    rw [run_append, log_append]
    exact ih.take m

/-- Whatever is done with a table and its backend, no handle is given out twice. A handle is live
exactly if the log has it outstanding, and once it is dead it stays so. The live handle of an
identifier is the one that the table finds for it. A live handle can be taken out. A dead one is
met with a double release, and then nothing has changed. -/
theorem live_run (backend : Backend) (moves : List Move) :
    let start : Registrar := { backend }
    let log := start.log moves
    let r := start.run moves
    (issued log).Nodup ∧
    (∀ h, r.handles.isLive h = true ↔ Outstanding log h) ∧
    (∀ h ∈ issued log, r.handles.isLive h = false →
      ∀ more, (r.run more).handles.isLive h = false) ∧
    (∀ id h, r.handles.handle? id = some h ↔ h.id = id ∧ r.handles.isLive h = true) ∧
    (∀ h, r.handles.isLive h = true →
      (∃ d, (r.take (.detach h)).1 = .ok (.detached [d])) ∧
      ∀ env, (r.take (.unregister env h)).1 ≠ .error (.doubleRelease h.id)) ∧
    ∀ h, r.handles.isLive h = false →
      r.take (.detach h) = (.error (.doubleRelease h.id), r) ∧
      ∀ env, r.take (.unregister env h) = (.error (.doubleRelease h.id), r) := by
  intro start log r
  have records : Records log r.handles := records_run backend moves
  refine ⟨records.nodup, records.live, ?_, fun _ _ => Handles.handle?_eq_some_iff, ?_, ?_⟩
  · intro h given dead more
    exact (r.run_spent ⟨records.older h given, dead⟩ more).2
  · intro h live
    refine ⟨?_, fun env => ?_⟩
    · obtain ⟨os, detached⟩ := Handles.detach_of_isLive live
      exact ⟨⟨h.id, os⟩, by simp only [take, detached]⟩
    · obtain ⟨result, backend, unregistered, answer⟩ :=
        Handles.unregister_of_isLive live r.backend env
      simp only [take, unregistered]
      cases result with
      | ok _ => exact nofun
      | error e =>
        rintro ⟨⟩
        exact answer rfl
  · intro h dead
    refine ⟨?_, fun env => ?_⟩
    · simp only [take, Handles.detach_of_not_isLive dead]
    · simp only [take, Handles.unregister_of_not_isLive dead]
      rfl

end Registrar

end Hotkeys
