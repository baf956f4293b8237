import Hotkeys.Proofs.Backend.Portable
import Hotkeys.Proofs.Backend.Simulated

/-!
# Which combinations a backend admits

A combination that nobody has can be registered if the backend knows its key. This depends on the
kind of the backend alone, and it is the only thing that is asked of such a combination.
-/

namespace Hotkeys.Backend

variable {env : Conditions} {id : HotkeyId} {chord : Chord}

/-- Whether the backend knows the key of a combination. -/
def admits : Backend → Chord → Bool
  | simulated _, chord => chord.isValid
  | portable _, chord => Portable.supports chord.key

/-- What the backend has against a key that it does not know. -/
def complaint : Backend → Chord → String
  | simulated _, chord => s!"keycode {Simulated.keyCodeText chord.key} is out of range"
  | portable _, _ => "key is not supported by the global-hotkey backend"

/-- It is not what is said against a combination that is taken. -/
theorem complaint_ne (b : Backend) (chord : Chord) :
    b.complaint chord ≠ "key combination is already bound" := by
  cases b with
  | simulated s =>
    intro same
    have start := congrArg (fun s : String => s.toList.take 4) same
    simp only [complaint, toString, String.toList_append, List.append_assoc] at start
    revert start
    exact nofun
  | portable p =>
    simp only [complaint]
    decide

/-- A combination that nobody has is registered if the backend knows its key. -/
theorem register_vacant (accepting : env.Accepting) {b : Backend}
    (vacant : b.isBound chord = false) (id : HotkeyId) :
    if b.admits chord then
      ∃ os b', b.register env id chord = .ok (os, b') ∧ b'.admits = b.admits ∧
        b'.complaint = b.complaint ∧
        ∀ c, b'.isBound c = true ↔ c = chord ∨ b.isBound c = true
    else b.register env id chord = .error (.registration chord.text (b.complaint chord)) := by
  cases b with
  | simulated s =>
    have free : s.isBound chord = false := vacant
    simp only [admits, register, accepting.registrations, Simulated.register]
    by_cases valid : chord.isValid = true
    · rw [if_pos valid, if_neg (not_not_intro valid), free]
      refine ⟨_, _, rfl, rfl, rfl, fun c => ?_⟩
      simp only [isBound, Simulated.isBound, List.any_cons, Bool.or_eq_true, beq_iff_eq]
      exact or_congr_left eq_comm
    · rw [if_neg valid, if_pos valid]
      rfl
  | portable p =>
    rw [register_accepting accepting]
    by_cases supported : Portable.supports chord.key = true
    · simp only [admits, supported, if_true]
      refine ⟨_, _, rfl, rfl, rfl, fun c => ?_⟩
      simp only [isBound, Portable.get?, Table.get?_insert]
      split <;> simp_all
    · simp only [admits, supported, if_false, Bool.false_eq_true]
      rfl

end Hotkeys.Backend
