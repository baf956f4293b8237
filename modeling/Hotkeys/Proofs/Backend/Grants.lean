import Hotkeys.Proofs.Backend.Simulated
import Hotkeys.Proofs.Ledger

/-!
# The history of the simulated backend

What the simulated backend holds after any calls, read off the ledger of these calls: a
registration is live from the call that got its number to the release of this number. Numbers are
given out in order, so an old number is of no use against a newer registration.
-/

namespace Hotkeys.Backend.Simulated

/-- A call to the backend. What is released is named by a number that may be any. -/
inductive Call
  | register (id : HotkeyId) (chord : Chord)
  | release (id : HotkeyId) (number : Nat)

/-- The answer to a call, which is the number where something is registered. -/
def answer (s : Simulated) : Call → Except Error (Option Nat) × Simulated
  | .register id chord =>
    match s.register id chord with
    | .ok (n, s') => (.ok (some n), s')
    | .error e => (.error e, s)
  | .release id n =>
    match s.release id n with
    | .ok s' => (.ok none, s')
    | .error e => (.error e, s)

/-- A call and its answer. -/
abbrev Entry := Call × Except Error (Option Nat)

/-- The registration that the entry is of. -/
def Entry.grant? : Entry → Option Grant
  | (.register id chord, .ok (some n)) => some ⟨n, id, chord⟩
  | _ => none

/-- Whether the call has released the number. -/
def Entry.Releases (n : Nat) : Entry → Prop
  | (.release _ m, .ok _) => m = n
  | _ => False

/-- All registrations that there have ever been, in order. -/
def grants (entries : List Entry) : List Grant := entries.filterMap Entry.grant?

/-- All numbers that have been given out, in order. -/
def issued (entries : List Entry) : List Nat := (grants entries).map (·.number)

variable {s s' : Simulated} {id : HotkeyId} {chord : Chord} {n : Nat} {entries : List Entry}

theorem grants_concat {e : Entry} :
    grants (entries ++ [e]) = grants entries ++ e.grant?.toList := by
  unfold grants
  rw [List.filterMap_append]
  cases granted : e.grant? <;> simp [granted]

/-! ## One call -/

/-- All that a call can do. -/
theorem answer_cases (s : Simulated) (c : Call) :
    (∃ id chord, c = .register id chord ∧ chord.isValid ∧ (∀ g ∈ s.live, g.chord ≠ chord) ∧
      s.answer c = (.ok (some s.next), s.add id chord)) ∨
    (∃ id n, c = .release id n ∧ (∃ g ∈ s.live, g.number = n) ∧
      s.answer c = (.ok none, s.remove n)) ∨
    ∃ e, s.answer c = (.error e, s) := by
  cases c with
  | register id chord =>
    cases result : s.register id chord with
    | error e => exact .inr (.inr ⟨e, by simp only [answer, result]⟩)
    | ok answered =>
      obtain ⟨n, s'⟩ := answered
      obtain ⟨⟨valid, free⟩, rfl, rfl⟩ := register_eq_ok_iff.mp result
      exact .inl ⟨id, chord, rfl, valid, free, by simp only [answer, result]⟩
  | release id n =>
    cases result : s.release id n with
    | error e => exact .inr (.inr ⟨e, by simp only [answer, result]⟩)
    | ok s' =>
      obtain ⟨live, rfl⟩ := release_eq_ok_iff.mp result
      exact .inr (.inl ⟨id, n, rfl, live, by simp only [answer, result]⟩)

/-! ## All calls -/

/-- The backend and what its ledger says about it. -/
structure Recorded (s : Simulated) (entries : List Entry) : Prop where
  numbered : s.Numbered
  chords : (s.live.map (·.chord)).Nodup
  valid : ∀ g ∈ s.live, g.chord.isValid
  live : ∀ g, g ∈ s.live ↔ Stands (·.grant? = some g) (Entry.Releases g.number) entries
  /-- A number that has been released is one of those given out, and no live one. -/
  gone : ∀ n, (∃ e ∈ entries, Entry.Releases n e) → n < s.next ∧ ∀ g ∈ s.live, g.number ≠ n
  issued : issued entries = List.range' 1 (grants entries).length
  next : s.next = (grants entries).length + 1

namespace Recorded

theorem empty : Recorded {} [] where
  numbered := .empty
  chords := List.nodup_nil
  valid := by simp
  live g := by simp [not_stands_nil]
  gone := by simp
  issued := rfl
  next := rfl

/-- A call that fails has no part in the history. -/
theorem error (recorded : Recorded s entries) (c : Call) (e : Error) :
    Recorded s (entries ++ [(c, .error e)]) := by
  have nothing : Entry.grant? (c, .error e) = none := by cases c <;> rfl
  have harmless : ∀ n, ¬ Entry.Releases n (c, .error e) := by
    intro n
    cases c <;> exact id
  constructor
  · exact recorded.numbered
  · exact recorded.chords
  · exact recorded.valid
  · intro g
    simp [stands_concat, nothing, harmless, recorded.live]
  · intro n
    simpa [harmless, or_and_right, exists_or] using recorded.gone n
  · simpa [Simulated.issued, grants_concat, nothing] using recorded.issued
  · simpa [grants_concat, nothing] using recorded.next

/-- A registration puts one more grant into the history, with the number that comes next. -/
theorem register (recorded : Recorded s entries) (valid : chord.isValid)
    (free : ∀ g ∈ s.live, g.chord ≠ chord) :
    Recorded (s.add id chord) (entries ++ [(.register id chord, .ok (some s.next))]) := by
  constructor
  · exact recorded.numbered.add id chord
  · refine List.nodup_cons.mpr ⟨?_, recorded.chords⟩
    intro taken
    obtain ⟨g, live, same⟩ := List.mem_map.mp taken
    exact free g live same
  · intro g live
    cases List.mem_cons.mp live with
    | inl new => exact new ▸ valid
    | inr old => exact recorded.valid g old
  · intro g
    rw [stands_concat, ← recorded.live g]
    simp [add, Entry.grant?, Entry.Releases, eq_comm]
  · intro n released
    have before : ∃ e ∈ entries, Entry.Releases n e := by
      simpa [Entry.Releases, or_and_right, exists_or] using released
    obtain ⟨older, absent⟩ := recorded.gone n before
    refine ⟨Nat.lt_succ_of_lt older, ?_⟩
    intro g live
    cases List.mem_cons.mp live with
    | inl new => exact new ▸ Nat.ne_of_gt older
    | inr old => exact absent g old
  · have issued := recorded.issued
    have next := recorded.next
    simp only [Simulated.issued, grants_concat, Entry.grant?, Option.toList_some, List.map_append,
      List.length_append, List.length_singleton, List.range'_concat, List.map_singleton] at issued ⊢
    rw [issued, next, Nat.one_mul, Nat.add_comm]
  · simp [grants_concat, Entry.grant?, add, recorded.next]

/-- A release takes the grant of its number out and leaves the number spent. -/
theorem release (recorded : Recorded s entries) (live : ∃ g ∈ s.live, g.number = n) :
    Recorded (s.remove n) (entries ++ [(.release id n, .ok none)]) := by
  have fewer : (s.remove n).live.Sublist s.live := List.filter_sublist
  constructor
  · exact recorded.numbered.of_sublist fewer rfl
  · exact recorded.chords.sublist (fewer.map _)
  · intro g member
    exact recorded.valid g (fewer.subset member)
  · intro g
    rw [mem_remove, stands_concat, ← recorded.live g]
    simp [Entry.grant?, Entry.Releases, eq_comm]
  · intro m released
    have released : (∃ e ∈ entries, Entry.Releases m e) ∨ n = m := by
      simpa [Entry.Releases, or_and_right, exists_or] using released
    cases released with
    | inl before =>
      obtain ⟨older, absent⟩ := recorded.gone m before
      exact ⟨older, fun g member => absent g (fewer.subset member)⟩
    | inr now =>
      obtain ⟨g, member, number⟩ := live
      refine ⟨?_, fun g member => now ▸ (mem_remove.mp member).2⟩
      rw [← now, ← number]
      exact recorded.numbered.older g member
  · simpa [Simulated.issued, grants_concat, Entry.grant?] using recorded.issued
  · simpa [grants_concat, Entry.grant?, remove] using recorded.next

/-- The ledger stays true with each call. -/
theorem answer (recorded : Recorded s entries) (c : Call) :
    Recorded (s.answer c).2 (entries ++ [(c, (s.answer c).1)]) := by
  obtain ⟨id, chord, rfl, valid, free, does⟩ | ⟨id, n, rfl, live, does⟩ | ⟨e, does⟩ :=
    s.answer_cases c
  · rw [does]
    exact recorded.register valid free
  · rw [does]
    exact recorded.release live
  · rw [does]
    exact recorded.error c e

theorem nodup_issued (recorded : Recorded s entries) : (Simulated.issued entries).Nodup := by
  rw [recorded.issued]
  exact List.nodup_range'

/-- The numbers that have been given out are those from one up to the number of registrations. -/
theorem mem_issued_iff (recorded : Recorded s entries) :
    n ∈ Simulated.issued entries ↔ 0 < n ∧ n ≤ (grants entries).length := by
  rw [recorded.issued, List.mem_range'_1]
  omega

theorem mem_grants_of_live (recorded : Recorded s entries) {g : Grant} (live : g ∈ s.live) :
    g ∈ grants entries := by
  obtain ⟨earlier, e, later, rfl, granted, -⟩ := (recorded.live g).mp live
  exact List.mem_filterMap.mpr ⟨e, by simp, granted⟩

end Recorded

/-! ## What the history says -/

/-- A registration is live if a call has got its number and none has released this number since. No
two live registrations share a combination, and the backend knows the key of each. -/
structure Current (s : Simulated) (entries : List Entry) : Prop where
  chords : (s.live.map (·.chord)).Nodup
  keys : ∀ g ∈ s.live, g.chord.key ≤ 0x7F
  live : ∀ g, g ∈ s.live ↔ Stands (·.grant? = some g) (Entry.Releases g.number) entries

theorem Recorded.current (recorded : Recorded s entries) : s.Current entries where
  chords := recorded.chords
  keys g live := of_decide_eq_true (recorded.valid g live)
  live := recorded.live

/-- No number is given out twice. A number is at most the number of registrations so far, so it fits
a word as long as their count does. -/
structure Sequenced (entries : List Entry) : Prop where
  once : (issued entries).Nodup
  bounded : ∀ n ∈ issued entries, 0 < n ∧ n ≤ (grants entries).length

theorem Recorded.sequenced (recorded : Recorded s entries) : Sequenced entries where
  once := recorded.nodup_issued
  bounded _ given := recorded.mem_issued_iff.mp given

/-- The next registration is accepted exactly if the backend knows the key and the combination is
free. Its number is one that has never been given out. -/
structure Accepts (s : Simulated) (entries : List Entry) : Prop where
  register_iff : ∀ id chord, (∃ n s', s.register id chord = .ok (n, s')) ↔
    chord.key ≤ 0x7F ∧ ∀ g ∈ s.live, g.chord ≠ chord
  fresh : ∀ id chord n s', s.register id chord = .ok (n, s') →
    n ∉ issued entries ∧ s'.live = ⟨n, id, chord⟩ :: s.live

theorem Recorded.accepts (recorded : Recorded s entries) : s.Accepts entries where
  register_iff id chord := by
    constructor
    · rintro ⟨n, s', accepted⟩
      obtain ⟨⟨valid, free⟩, -⟩ := register_eq_ok_iff.mp accepted
      exact ⟨of_decide_eq_true valid, free⟩
    · rintro ⟨small, free⟩
      exact ⟨_, _, register_eq_ok_iff.mpr ⟨⟨decide_eq_true small, free⟩, rfl, rfl⟩⟩
  fresh id chord n s' accepted := by
    obtain ⟨-, rfl, rfl⟩ := register_eq_ok_iff.mp accepted
    refine ⟨?_, rfl⟩
    rw [recorded.mem_issued_iff, recorded.next]
    omega

/-- A number can be released if it has been given out and not been released since. What goes is the
registration that had got the number. A number that has been released before is refused, also when
its combination is registered again. -/
structure Retires (s : Simulated) (entries : List Entry) : Prop where
  release_iff : ∀ id n, (∃ s', s.release id n = .ok s') ↔
    Stands (fun e => ∃ g, e.grant? = some g ∧ g.number = n) (Entry.Releases n) entries
  removes : ∀ id s', ∀ g ∈ grants entries, s.release id g.number = .ok s' →
    g ∈ s.live ∧ s'.live = s.live.erase g
  stale : ∀ id n, (∃ e ∈ entries, e.Releases n) →
    s.release id n = .error (.unregistration id "handle is not live")

/-- A release succeeds if the number has been given out and not been released since. -/
theorem Recorded.release_iff (recorded : Recorded s entries) :
    (∃ s', s.release id n = .ok s') ↔
      Stands (fun e => ∃ g, e.grant? = some g ∧ g.number = n) (Entry.Releases n) entries := by
  rw [stands_exists]
  constructor
  · rintro ⟨s', released⟩
    obtain ⟨⟨g, live, rfl⟩, -⟩ := release_eq_ok_iff.mp released
    obtain ⟨earlier, e, later, split, granted, kept⟩ := (recorded.live g).mp live
    exact ⟨g, earlier, e, later, split, ⟨granted, rfl⟩, kept⟩
  · rintro ⟨g, earlier, e, later, split, ⟨granted, rfl⟩, kept⟩
    have live := (recorded.live g).mpr ⟨earlier, e, later, split, granted, kept⟩
    exact ⟨_, release_eq_ok_iff.mpr ⟨⟨g, live, rfl⟩, rfl⟩⟩

/-- What a release takes out is the registration that had got the number. -/
theorem Recorded.release_removes (recorded : Recorded s entries) {g : Grant}
    (granted : g ∈ grants entries) (released : s.release id g.number = .ok s') :
    g ∈ s.live ∧ s'.live = s.live.erase g := by
  obtain ⟨⟨g', live, number⟩, rfl⟩ := release_eq_ok_iff.mp released
  have same : g' = g :=
    List.inj_on_of_nodup_map recorded.nodup_issued (recorded.mem_grants_of_live live) granted number
  rw [same] at live
  refine ⟨live, ?_⟩
  rw [(List.Nodup.of_map _ recorded.chords).erase_eq_filter]
  refine List.filter_congr fun other member => ?_
  have apart : other.number = g.number ↔ other = g :=
    ⟨recorded.numbered.eq_of_number member live, congrArg _⟩
  exact Bool.eq_iff_iff.mpr (by simp [apart])

theorem Recorded.retires (recorded : Recorded s entries) : s.Retires entries where
  release_iff _ _ := recorded.release_iff
  removes _ _ _ granted released := recorded.release_removes granted released
  stale id n stale := by
    have absent := (recorded.gone n stale).2
    unfold Simulated.release
    rw [if_neg (by simpa using absent)]

/-- A call that fails changes nothing. -/
theorem answer_of_error {c : Call} {e : Error} (failed : (s.answer c).1 = .error e) :
    (s.answer c).2 = s := by
  obtain ⟨_, _, -, -, -, does⟩ | ⟨_, _, -, -, does⟩ | ⟨_, does⟩ := s.answer_cases c
  · simp [does] at failed
  · simp [does] at failed
  · rw [does]

/-- An event is sent on its way if there is a live registration for its identifier. -/
theorem fire_eq {σ : Type} (s : Simulated) (dispatch : Event → σ → Bool × σ) (e : Event) (w : σ) :
    (simulated s).fire dispatch e w =
      if ∃ g ∈ s.live, g.id = e.id then dispatch e w else (false, w) := by
  simp [fire, Backend.hears, Simulated.hears]

/-- The backend that the calls have made of the one without registrations. -/
def after (calls : List Call) : Simulated := Ledger.state answer {} calls

/-- The calls with their answers. -/
def ledger (calls : List Call) : List Entry := Ledger.entries answer {} calls

theorem recorded_after (calls : List Call) : Recorded (after calls) (ledger calls) :=
  Ledger.keeps .empty (fun _ _ c recorded => recorded.answer c) calls

/-- The history of the calls, whatever they are, says what is live after them, which numbers have been
given out, and what the backend will do next. A call that fails has no part in the history and changes
nothing, and an event goes on its way exactly if a live registration carries its identifier. -/
theorem grants_run (calls : List Call) :
    let s := after calls
    let entries := ledger calls
    s.Current entries ∧ Sequenced entries ∧ s.Accepts entries ∧ s.Retires entries ∧
    (∀ c e, (s.answer c).1 = .error e → (s.answer c).2 = s) ∧
    ∀ (σ : Type) (dispatch : Event → σ → Bool × σ) e w,
      (simulated s).fire dispatch e w =
        if ∃ g ∈ s.live, g.id = e.id then dispatch e w else (false, w) := by
  intro s entries
  have recorded : Recorded s entries := recorded_after calls
  refine ⟨recorded.current, recorded.sequenced, recorded.accepts, recorded.retires, ?_, ?_⟩
  · intro c e failed
    exact answer_of_error failed
  · intro σ dispatch e w
    exact fire_eq _ dispatch e w

/-- The number of a registration that is gone does not reach a newer one of its combination. -/
example :
    let again := after [.register 1 ⟨0, .empty⟩, .release 1 1, .register 1 ⟨0, .empty⟩]
    again.live = [⟨2, 1, ⟨0, .empty⟩⟩] ∧ (again.answer (.release 1 1)).2 = again :=
  ⟨rfl, rfl⟩

end Hotkeys.Backend.Simulated
