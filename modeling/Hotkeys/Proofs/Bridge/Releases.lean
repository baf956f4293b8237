import Hotkeys.Proofs.Bridge.System

/-!
# Releases that the system refuses

A release is refused or not by itself, so the order of releases does not matter to a simulated
system: what goes is what is to be released and not refused. What is refused stays with the system,
while the table has forgotten it.
-/

namespace Hotkeys

namespace Backend

/-- What is released to give a registration back. -/
def Grant.detached (g : Grant) : Detached := ⟨g.id, .numbered g.number⟩

namespace Simulated

variable {s : Simulated} {p q : Grant → Bool}

/-- The system with some of its registrations only. -/
def keep (s : Simulated) (p : Grant → Bool) : Simulated := { s with live := s.live.filter p }

theorem keep_of_forall (all : ∀ g ∈ s.live, p g = true) : s.keep p = s := by
  unfold keep
  rw [List.filter_eq_self.mpr all]

theorem keep_keep : (s.keep p).keep q = s.keep fun g => p g && q g := by
  simp [keep, List.filter_filter, Bool.and_comm]

end Simulated

end Backend

namespace Bridge

open Backend

variable {H : Type} {b b' : Bridge H} {s : Simulated} {env : Conditions}

/-! ## What is refused -/

/-- What the backend refuses to release, of releases that are made one after the other. -/
def refusedOf (env : Conditions) : Backend → List Detached → List Detached
  | _, [] => []
  | backend, d :: rest =>
    match d.release backend env with
    | .ok backend => refusedOf env backend rest
    | .error _ => d :: refusedOf env backend rest

/-- What the backend refuses to release of what a move gives up. -/
def refusedBy (b : Bridge H) : Move H → List Detached
  | .registerAndBind env (some _) id chord _ =>
    match b.register env id chord with
    | (.done _, b) => refusedOf env b.backend (b.detached id)
    | _ => []
  | .unregister env id => refusedOf env b.backend (b.detached id)
  | .unregisterHandle env h =>
    if b.handles.isLive h then refusedOf env b.backend (b.detached h.id) else []
  | .shutdown env => refusedOf env b.backend b.handles.detachAll.1
  | _ => []

/-- What the backend has refused to release during a run. -/
def refusedIn (b : Bridge H) : List (Move H) → List Detached
  | [] => []
  | m :: rest => b.refusedBy m ++ (b.take m).2.refusedIn rest

/-- What a longer run leaves behind is what both parts do. -/
theorem refusedIn_append (b : Bridge H) (first second : List (Move H)) :
    b.refusedIn (first ++ second) = b.refusedIn first ++ (b.run first).refusedIn second := by
  induction first generalizing b with
  | nil => rfl
  | cons m rest ih => simp [refusedIn, ih]

/-! ## A simulated system -/

/-- Whether a registration outlasts some releases: those that are for it are refused. -/
def outlasts (env : Conditions) (ds : List Detached) (g : Grant) : Bool :=
  ds.all fun d => (env.releaseFault d.id).isSome || d.os != .numbered g.number

/-- A registration outlasts releases if each that is for it meets a fault. -/
theorem outlasts_iff {ds : List Detached} {g : Grant} :
    outlasts env ds g = true ↔
      ∀ d ∈ ds, d.os = .numbered g.number → (env.releaseFault d.id).isSome = true := by
  simp only [outlasts, List.all_eq_true, Bool.or_eq_true, bne_iff_ne]
  refine forall₂_congr fun d _ => ?_
  rw [or_comm, ← Decidable.imp_iff_not_or]

theorem releaseEach_singleton (env : Conditions) (s : Simulated) (d : Detached) :
    releaseEach env (.simulated s) [d] = .simulated (s.keep (outlasts env [d])) := by
  obtain ⟨id, os⟩ := d
  -- nothing goes if no live registration can go
  have all_stay : (∀ g ∈ s.live, outlasts env [⟨id, os⟩] g = true) →
      Backend.simulated s = .simulated (s.keep (outlasts env [⟨id, os⟩])) := fun stay =>
    congrArg _ (Simulated.keep_of_forall stay).symm
  simp only [releaseEach, List.foldl_cons, List.foldl_nil, Detached.release, Backend.release]
  cases fault : env.releaseFault id with
  | some reason => exact all_stay fun g _ => by simp [outlasts, fault]
  | none =>
    cases os with
    | combination chord => exact all_stay fun g _ => by simp [outlasts]
    | numbered n =>
      by_cases live : (s.live.any fun g => g.number == n) = true
      · simp only [Simulated.release, if_pos live, Except.map]
        refine congrArg _ (congrArg _ (List.filter_congr fun g _ => ?_))
        simp [outlasts, fault, bne, eq_comm]
      · simp only [Simulated.release, if_neg live, Except.map]
        refine all_stay fun g member => ?_
        simp only [outlasts, List.all_cons, fault]
        rw [bne_iff_ne.mpr]
        · rfl
        · rintro ⟨⟩
          exact live (List.any_eq_true.mpr ⟨g, member, beq_self_eq_true _⟩)

/-- What stays after some releases, in whatever order they are made. -/
theorem releaseEach_eq (env : Conditions) (s : Simulated) (ds : List Detached) :
    releaseEach env (.simulated s) ds = .simulated (s.keep (outlasts env ds)) := by
  induction ds generalizing s with
  | nil => exact congrArg _ (Simulated.keep_of_forall fun _ _ => rfl).symm
  | cons d rest ih =>
    change releaseEach env (releaseEach env (.simulated s) [d]) rest = _
    rw [releaseEach_singleton, ih, Simulated.keep_keep]
    refine congrArg _ (congrArg _ (funext fun g => ?_))
    simp [outlasts]

end Bridge

end Hotkeys
