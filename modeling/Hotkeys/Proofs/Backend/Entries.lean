import Hotkeys.Proofs.Backend.Portable
import Hotkeys.Proofs.Ledger

/-!
# The history of the portable backend

Which combinations have an entry after any calls, and for which identifier, read off the ledger of
these calls. The calls come from the thread that created the backend or from another one, and the
system may refuse a release; only the calls that succeed have a part in the history.
-/

namespace Hotkeys.Backend.Portable

/-- A call to the backend. A registration is named by its combination when it is released. -/
inductive Call
  | register (onOwnerThread : Bool) (id : HotkeyId) (chord : Chord)
  | release (onOwnerThread : Bool) (refusal : Option String) (id : HotkeyId) (chord : Chord)

def perform (p : Portable) : Call → Except Error Portable
  | .register onOwnerThread id chord => p.register onOwnerThread id chord
  | .release onOwnerThread refusal id chord => p.release onOwnerThread refusal id chord

/-- The answer to a call, with what has become of the backend. -/
def answer (p : Portable) (c : Call) : Except Error Unit × Portable :=
  match p.perform c with
  | .ok p' => (.ok (), p')
  | .error e => (.error e, p)

/-- A call and its answer. -/
abbrev Entry := Call × Except Error Unit

/-- Whether the call has registered the combination for the identifier. -/
def Entry.Registers (chord : Chord) (id : HotkeyId) : Entry → Prop
  | (.register _ id' chord', .ok _) => id' = id ∧ chord' = chord
  | _ => False

/-- Whether the call has released the combination. -/
def Entry.Releases (chord : Chord) : Entry → Prop
  | (.release _ _ _ chord', .ok _) => chord' = chord
  | _ => False

/-- Whether what the combination stands for has been decided by the call. -/
def Entry.Decides (chord : Chord) (e : Entry) : Prop :=
  (∃ id, e.Registers chord id) ∨ e.Releases chord

variable {p p' : Portable} {onOwnerThread : Bool} {refusal : Option String} {id : HotkeyId}
  {chord : Chord} {entries : List Entry}

/-! ## One call -/

/-- All that a call can do. -/
theorem answer_cases (p : Portable) (c : Call) :
    (∃ t id chord, c = .register t id chord ∧
      p.answer c = (.ok (), ⟨p.entries.insert chord id⟩)) ∨
    (∃ t refusal id chord, c = .release t refusal id chord ∧
      p.answer c = (.ok (), ⟨p.entries.erase chord⟩)) ∨
    ∃ e, p.answer c = (.error e, p) := by
  unfold answer
  cases result : p.perform c with
  | error e => exact .inr (.inr ⟨e, rfl⟩)
  | ok p' =>
    cases c with
    | register t id chord =>
      obtain ⟨-, rfl⟩ := register_eq_ok_iff.mp result
      exact .inl ⟨t, id, chord, rfl, rfl⟩
    | release t refusal id chord =>
      obtain ⟨-, rfl⟩ := release_eq_ok_iff.mp result
      exact .inr (.inl ⟨t, refusal, id, chord, rfl, rfl⟩)

/-- A call that fails changes nothing. -/
theorem answer_of_error {c : Call} {e : Error} (failed : (p.answer c).1 = .error e) :
    (p.answer c).2 = p := by
  obtain ⟨_, _, _, -, does⟩ | ⟨_, _, _, _, -, does⟩ | ⟨_, does⟩ := p.answer_cases c
  · simp [does] at failed
  · simp [does] at failed
  · rw [does]

/-- An entry outlasts each call that does not release it, whatever else the call does. -/
theorem isSome_get?_answer {c : Call} (entered : (p.get? chord).isSome)
    (kept : ¬ Entry.Releases chord (c, (p.answer c).1)) :
    ((p.answer c).2.get? chord).isSome := by
  obtain ⟨_, _, other, -, does⟩ | ⟨_, _, _, other, rfl, does⟩ | ⟨_, does⟩ := p.answer_cases c
  · rw [does]
    simp only [get?, Table.get?_insert]
    split
    · rfl
    · exact entered
  · have apart : chord ≠ other := by
      intro same
      exact kept (by simp [does, Entry.Releases, same])
    rw [does]
    simpa [get?, Table.get?_erase, apart] using entered
  · rwa [does]

/-! ## All calls -/

/-- A combination has an entry if it has been registered and not been released since. The entry is of
the identifier that it has been registered for last. -/
structure Recorded (p : Portable) (entries : List Entry) : Prop where
  isSome : ∀ chord, (p.get? chord).isSome ↔
    Stands (fun e => ∃ id, e.Registers chord id) (Entry.Releases chord) entries
  some : ∀ chord id, p.get? chord = some id ↔
    Stands (Entry.Registers chord id) (Entry.Decides chord) entries

namespace Recorded

theorem empty : Recorded {} [] where
  isSome chord := by simp [not_stands_nil, get?, Table.get?]
  some chord id := by simp [not_stands_nil, get?, Table.get?]

/-- A call that fails has no part in the history. -/
theorem error (recorded : Recorded p entries) (c : Call) (e : Error) :
    Recorded p (entries ++ [(c, .error e)]) := by
  have registers : ∀ chord id, ¬ Entry.Registers chord id (c, .error e) := by
    intro chord id
    cases c <;> exact fun impossible => impossible
  have releases : ∀ chord, ¬ Entry.Releases chord (c, .error e) := by
    intro chord
    cases c <;> exact fun impossible => impossible
  constructor
  · intro chord
    simp [stands_concat, recorded.isSome, registers, releases]
  · intro chord id
    simp [stands_concat, recorded.some, registers, releases, Entry.Decides]

theorem register (recorded : Recorded p entries) :
    Recorded ⟨p.entries.insert chord id⟩
      (entries ++ [(.register onOwnerThread id chord, .ok ())]) := by
  constructor
  · intro other
    rw [stands_concat, ← recorded.isSome]
    obtain rfl | apart := eq_or_ne other chord
    · simp [get?, Table.get?_insert, Entry.Registers]
    · simp [get?, Table.get?_insert, Entry.Registers, Entry.Releases, apart, apart.symm]
  · intro other id'
    rw [stands_concat, ← recorded.some]
    obtain rfl | apart := eq_or_ne other chord
    · simp [get?, Table.get?_insert, Entry.Decides, Entry.Registers]
    · simp [get?, Table.get?_insert, Entry.Decides, Entry.Registers, Entry.Releases, apart,
        apart.symm]

theorem release (recorded : Recorded p entries) :
    Recorded ⟨p.entries.erase chord⟩
      (entries ++ [(.release onOwnerThread refusal id chord, .ok ())]) := by
  constructor
  · intro other
    rw [stands_concat, ← recorded.isSome]
    obtain rfl | apart := eq_or_ne other chord
    · simp [get?, Table.get?_erase, Entry.Registers, Entry.Releases]
    · simp [get?, Table.get?_erase, Entry.Registers, Entry.Releases, apart, apart.symm]
  · intro other id'
    rw [stands_concat, ← recorded.some]
    obtain rfl | apart := eq_or_ne other chord
    · simp [get?, Table.get?_erase, Entry.Decides, Entry.Registers, Entry.Releases]
    · simp [get?, Table.get?_erase, Entry.Decides, Entry.Registers, Entry.Releases, apart,
        apart.symm]

/-- The ledger stays true with each call. -/
theorem answer (recorded : Recorded p entries) (c : Call) :
    Recorded (p.answer c).2 (entries ++ [(c, (p.answer c).1)]) := by
  obtain ⟨_, _, _, rfl, does⟩ | ⟨_, _, _, _, rfl, does⟩ | ⟨e, does⟩ := p.answer_cases c
  · rw [does]
    exact recorded.register
  · rw [does]
    exact recorded.release
  · rw [does]
    exact recorded.error c e

end Recorded

/-- The backend that the calls have made of the one without registrations. -/
def after (calls : List Call) : Portable := Ledger.state answer {} calls

/-- The calls with their answers. -/
def ledger (calls : List Call) : List Entry := Ledger.entries answer {} calls

theorem recorded_after (calls : List Call) : Recorded (after calls) (ledger calls) :=
  Ledger.keeps .empty (fun _ _ c recorded => recorded.answer c) calls

/-! ## Trying again -/

/-- An entry outlasts all calls but a release of it that succeeds. -/
theorem isSome_get?_state (entered : (p.get? chord).isSome) (calls : List Call) :
    (∀ e ∈ Ledger.entries answer p calls, ¬ Entry.Releases chord e) →
      ((Ledger.state answer p calls).get? chord).isSome := by
  refine Ledger.keeps (P := fun (p : Portable) entries =>
    (∀ e ∈ entries, ¬ Entry.Releases chord e) → (p.get? chord).isSome) (fun _ => entered) ?_ calls
  intro p before c ih kept
  apply isSome_get?_answer
  · exact ih fun e member => kept e (List.mem_append_left _ member)
  · exact kept _ (by simp)

/-- When the next release succeeds. -/
theorem release_iff :
    (∃ p', p.release onOwnerThread refusal id chord = .ok p') ↔
      onOwnerThread = true ∧ (p.get? chord).isSome ∧ refusal = none := by
  simp [release_eq_ok_iff]

/-- A release that has failed is as if it had not been tried. -/
theorem release_again {e : Error} {onOwnerThread' : Bool} {refusal' : Option String}
    (failed : p.release onOwnerThread refusal id chord = .error e) :
    (∃ p', (p.answer (.release onOwnerThread refusal id chord)).2.release onOwnerThread' refusal'
        id chord = .ok p') ↔
      onOwnerThread' = true ∧ (p.get? chord).isSome ∧ refusal' = none := by
  have same : (p.answer (.release onOwnerThread refusal id chord)).2 = p := by
    simp [answer, perform, failed]
  rw [same, release_iff]

/-- As long as no release of an entry has succeeded, the next one that the system accepts does. -/
theorem release_later (entered : (p.get? chord).isSome) {calls : List Call}
    (kept : ∀ e ∈ Ledger.entries answer p calls, ¬ Entry.Releases chord e) (id : HotkeyId) :
    ∃ p', (Ledger.state answer p calls).release true none id chord = .ok p' ∧
      p'.get? chord = none := by
  have still := isSome_get?_state entered calls kept
  refine ⟨_, release_eq_ok_iff.mpr ⟨⟨rfl, still, rfl⟩, rfl⟩, ?_⟩
  simp [get?, Table.get?_erase]

/-! ## The next calls -/

/-- The next call succeeds only on the thread that owns the backend. A registration needs a key that
the backend supports, and a release needs an entry and the consent of the system. A call that fails
changes nothing. -/
structure Answers (p : Portable) : Prop where
  register_iff : ∀ onOwnerThread id chord, (∃ p', p.register onOwnerThread id chord = .ok p') ↔
    onOwnerThread = true ∧ supports chord.key
  release_iff : ∀ onOwnerThread refusal id chord,
    (∃ p', p.release onOwnerThread refusal id chord = .ok p') ↔
      onOwnerThread = true ∧ (p.get? chord).isSome ∧ refusal = none
  error : ∀ c e, (p.answer c).1 = .error e → (p.answer c).2 = p

theorem answers (p : Portable) : p.Answers where
  register_iff onOwnerThread id chord := by simp [register_eq_ok_iff]
  release_iff _ _ _ _ := release_iff
  error _ _ failed := answer_of_error failed

/-- A release that has failed can be tried again, at once or after any calls that have not released
the entry. It succeeds as soon as the system consents, and then the entry is gone. -/
structure Retries (p : Portable) : Prop where
  again : ∀ onOwnerThread refusal id chord e,
    p.release onOwnerThread refusal id chord = .error e → ∀ onOwnerThread' refusal',
      (∃ p', (p.answer (.release onOwnerThread refusal id chord)).2.release onOwnerThread' refusal'
          id chord = .ok p') ↔
        onOwnerThread' = true ∧ (p.get? chord).isSome ∧ refusal' = none
  later : ∀ chord, (p.get? chord).isSome → ∀ more,
    (∀ e ∈ Ledger.entries answer p more, ¬ Entry.Releases chord e) →
      ∀ id, ∃ p', (Ledger.state answer p more).release true none id chord = .ok p' ∧
        p'.get? chord = none

theorem retries (p : Portable) : p.Retries where
  again _ _ _ _ _ failed _ _ := release_again failed
  later _ entered _ kept id := release_later entered kept id

/-- What any calls have made of the entries, what the next call will do, and when a release that has
failed can be made up for. -/
theorem entries_run (calls : List Call) :
    Recorded (after calls) (ledger calls) ∧ (after calls).Answers ∧ (after calls).Retries :=
  ⟨recorded_after calls, answers _, retries _⟩

end Hotkeys.Backend.Portable
