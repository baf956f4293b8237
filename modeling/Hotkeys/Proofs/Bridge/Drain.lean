import Hotkeys.Proofs.Bridge.Leftovers
import Mathlib.Data.List.Perm.Basic

/-!
# What a shutdown gives up

A shutdown takes all entries out of the two tables of a bridge and gives them up one after the
other, in the order in which the tables list them. Each release is refused or not by itself and
each cell is given back or not by itself, so the order makes no difference.
-/

namespace Hotkeys.Bridge

open Backend

variable {H : Type} {b b' : Bridge H} {c c' : Cell H} {s : Simulated} {env : Conditions}
  {ds ds' : List Detached}

/-! ## The order of the tables -/

theorem reclaim_of_holds (held : b.holds c = true) : b.reclaim c = b := if_pos held

/-- Giving a cell back moves nothing, so it is still held where it was. -/
theorem holds_reclaim (b : Bridge H) (c c' : Cell H) : (b.reclaim c).holds c' = b.holds c' := by
  rw [reclaim_eq]
  rfl

/-- It does not matter which of two cells is given back first. -/
theorem reclaim_comm (b : Bridge H) (c c' : Cell H) :
    (b.reclaim c).reclaim c' = (b.reclaim c').reclaim c := by
  by_cases first : b.holds c = true
  · have later : (b.reclaim c').holds c = true := (holds_reclaim b c' c).trans first
    rw [reclaim_of_holds first, reclaim_of_holds later]
  · by_cases second : b.holds c' = true
    · have later : (b.reclaim c).holds c' = true := (holds_reclaim b c c').trans second
      rw [reclaim_of_holds second, reclaim_of_holds later]
    · have gone : ∀ c : Cell H, ¬ b.holds c = true →
          b.reclaim c = { b with counter := b.counter - 1 } := fun _ free => if_neg free
      rw [gone c first, gone c' second, reclaim, reclaim, if_neg, if_neg]
      · exact first
      · exact second

/-- What outlasts some releases does not depend on their order. -/
theorem outlasts_perm (perm : ds.Perm ds') (env : Conditions) :
    outlasts env ds = outlasts env ds' :=
  funext fun _ => perm.all_eq

/-- The same bridge with tables that list their entries in another order. -/
structure Reordered (b b' : Bridge H) : Prop where
  live : b'.handles.live.entries.Perm b.handles.live.entries
  slots : b'.slots.entries.Perm b.slots.entries
  rest : b' = { b with handles := { b.handles with live := b'.handles.live }, slots := b'.slots }

/-- A shutdown does not depend on the order in which the tables list their entries. -/
theorem Reordered.shutdown (reordered : b.Reordered b') (simulated : b.backend = .simulated s)
    (env : Conditions) : b'.shutdown env = b.shutdown env := by
  have released : b'.handles.detachAll.1.Perm b.handles.detachAll.1 := reordered.live.map _
  have cells : b'.slots.values.Perm b.slots.values := reordered.slots.map _
  have : RightCommutative (reclaim : Bridge H → Cell H → Bridge H) := ⟨reclaim_comm⟩
  have backend : releaseEach env b'.backend b'.handles.detachAll.1 =
      releaseEach env b.backend b.handles.detachAll.1 := by
    rw [show b'.backend = b.backend by rw [reordered.rest], simulated, releaseEach_eq,
      releaseEach_eq, outlasts_perm released]
  simp only [Bridge.shutdown, releaseAll_eq]
  rw [released.length_eq, cells.foldl_eq, backend, reordered.rest]
  rfl

/-! ## Releases -/

/-- Of what the table has given up, the system keeps what it has refused to release. -/
theorem Backed.shutdown_live (backed : b.Backed s) (env : Conditions) :
    ∃ s', (b.shutdown env).2.backend = .simulated s' ∧ s'.next = s.next ∧
      ∀ g, g ∈ s'.live ↔ g ∈ s.live ∧ (g.detached ∈ b.handles.detachAll.1 →
        g.detached ∈ refusedOf env b.backend b.handles.detachAll.1) := by
  refine ⟨s.keep (outlasts env b.handles.detachAll.1), ?_, rfl, fun g => ?_⟩
  · rw [shutdown_backend, backed.backend, releaseEach_eq]
  · rw [backed.backend, Backed.refusedOf_eq backed.numbered b.detachAll_nodup fun _ =>
      backed.exists_grant]
    refine List.mem_filter.trans (and_congr_right fun live => ?_)
    rw [backed.outlasts_iff_of_mem (fun _ => id) live, List.mem_filter]
    exact ⟨fun stays given => ⟨given, stays given⟩, fun kept given => (kept given).2⟩

/-- A shutdown of a bridge that has given up everything finds nothing to do. -/
theorem shutdown_of_empty (live : b.handles.live = .empty) (slots : b.slots = .empty)
    (env : Conditions) : b.shutdown env = (0, b) := by
  obtain ⟨backend, strict, held, ⟨_, nextSerial⟩, _⟩ := b
  subst live slots
  rfl

/-- A second shutdown finds nothing to do. -/
theorem shutdown_shutdown (b : Bridge H) (env env' : Conditions) :
    (b.shutdown env).2.shutdown env' = (0, (b.shutdown env).2) :=
  shutdown_of_empty (by rw [shutdown_handles]) (shutdown_slots ..) env'

end Hotkeys.Bridge
