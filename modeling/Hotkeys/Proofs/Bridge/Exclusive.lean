import Hotkeys.Proofs.Backend.Portable
import Hotkeys.Proofs.Bridge.Lifecycle

/-!
# One combination for two identifiers

The portable backend knows a registration by its combination and does not ask whether the
combination is taken. As long as nobody asks for a combination that another live identifier has,
the map of the backend is the table of the bridge read backwards, and each registration can be
given up on its own. The first request for a combination that is taken ends this: both identifiers
hold the same combination, and the one that is given up first takes it from the other.

## Implementation notes

`Exclusive` is the property, and `Mirrored` the invariant behind it. All calls are made under
conditions that accept whatever can be accepted, so it is the bridge and the map that decide.
-/

namespace Hotkeys.Bridge

open Backend

variable {H : Type} {b b' : Bridge H} {p : Portable} {env : Conditions}

/-! ## Requests for a combination that is taken -/

/-- The conditions under which a move calls the backend. -/
def Move.conditions? : Move H → Option Conditions
  | .register env .. | .registerAndBind env .. | .unregister env _ | .unregisterHandle env _
  | .shutdown env => some env
  | _ => none

def Move.Accepting (m : Move H) : Prop := ∀ env, m.conditions? = some env → env.Accepting

/-- Whether a live identifier has the combination. -/
def hasChord (b : Bridge H) (chord : Chord) : Bool :=
  b.handles.live.values.any fun holding => holding.chord == chord

/-- The combination that a move asks the backend for. -/
def asks? (b : Bridge H) : Move H → Option Chord
  | .register _ id chord | .registerAndBind _ _ id chord _ =>
    if b.isRegistered id then none else some chord
  | _ => none

/-- Whether a move asks for a combination that a live identifier has. -/
def crowds (b : Bridge H) (m : Move H) : Bool := (b.asks? m).any b.hasChord

def crowdsIn (b : Bridge H) : List (Move H) → Bool
  | [] => false
  | m :: rest => b.crowds m || (b.take m).2.crowdsIn rest

/-- A combination is in the table if some identifier is registered for it. -/
theorem hasChord_iff {chord : Chord} :
    b.hasChord chord = true ↔ ∃ id, b.chord? id = some chord := by
  simp only [hasChord, List.any_eq_true, Table.mem_values_iff, beq_iff_eq, chord?,
    Handles.chord?, Option.map_eq_some_iff]
  constructor
  · rintro ⟨holding, ⟨id, entry⟩, same⟩
    exact ⟨id, holding, entry, same⟩
  · rintro ⟨id, holding, entry, same⟩
    exact ⟨holding, ⟨id, entry⟩, same⟩

theorem isRegistered_of_chord? {id : HotkeyId} {chord : Chord}
    (owner : b.chord? id = some chord) : b.isRegistered id = true := by
  obtain ⟨holding, entry, -⟩ := Option.map_eq_some_iff.mp owner
  exact isRegistered_iff.mpr ⟨holding, entry⟩

/-! ## Exclusive registrations -/

/-- Every live identifier holds something that the backend sends back to this very identifier. -/
def Exclusive (b : Bridge H) : Prop :=
  ∃ p, b.backend = .portable p ∧ ∀ id holding, b.handles.live.get? id = some holding →
    ∃ chord, holding.os = .combination chord ∧ p.get? chord = some id

/-- The map of the backend is the table read backwards. -/
structure Mirrored (b : Bridge H) (p : Portable) : Prop where
  backend : b.backend = .portable p
  held : ∀ {id holding}, b.handles.live.get? id = some holding →
    holding.os = .combination holding.chord ∧ Portable.supports holding.chord.key = true
  inverse : ∀ {id chord}, p.get? chord = some id ↔ b.chord? id = some chord

namespace Mirrored

theorem exclusive (mirrored : b.Mirrored p) : b.Exclusive := by
  refine ⟨p, mirrored.backend, fun id holding entry => ?_⟩
  refine ⟨holding.chord, (mirrored.held entry).1, mirrored.inverse.mpr ?_⟩
  exact congrArg (Option.map _) entry

/-- No two entries of a mirrored table share what the system knows them by. -/
theorem eq_of_os (mirrored : b.Mirrored p) {id id' : HotkeyId} {holding holding' : Holding}
    (entry : b.handles.live.get? id = some holding)
    (entry' : b.handles.live.get? id' = some holding') (same : holding.os = holding'.os) :
    id = id' := by
  rw [(mirrored.held entry).1, (mirrored.held entry').1] at same
  have owner : b.chord? id = some holding.chord := congrArg (Option.map _) entry
  have owner' : b.chord? id' = some holding'.chord := congrArg (Option.map _) entry'
  rw [← OsHandle.combination.inj same] at owner'
  exact Option.some.inj ((mirrored.inverse.mpr owner).symm.trans (mirrored.inverse.mpr owner'))

theorem congr (mirrored : b.Mirrored p) (handles : b'.handles = b.handles)
    (backend : b'.backend = b.backend) : b'.Mirrored p := by
  refine ⟨backend.trans mirrored.backend, ?_, ?_⟩
  · rw [handles]
    exact mirrored.held
  · simp only [chord?, handles]
    exact mirrored.inverse

/-- A combination that no live identifier has is entered in the table and in the map. -/
theorem enroll (mirrored : b.Mirrored p) {id : HotkeyId} {chord : Chord}
    (free : b.isRegistered id = false) (vacant : b.hasChord chord = false)
    (supported : Portable.supports chord.key = true) :
    (b.enroll id chord (.combination chord) (.portable { entries := p.entries.insert chord id })
      ).Mirrored { entries := p.entries.insert chord id } := by
  refine ⟨rfl, ?_, ?_⟩
  · intro other holding entry
    obtain ⟨rfl, rfl⟩ | ⟨-, entry⟩ := Table.get?_insert_eq_some_iff.mp entry
    · exact ⟨rfl, supported⟩
    · exact mirrored.held entry
  · intro other chord'
    have absent : b.chord? id ≠ some chord' := by
      intro owner
      exact absurd (isRegistered_of_chord? owner) (by simp [free])
    have unowned : b.chord? other ≠ some chord := by
      intro owner
      exact absurd (hasChord_iff.mpr ⟨other, owner⟩) (by simp [vacant])
    have before : p.entries.get? chord' = some other ↔ b.chord? other = some chord' :=
      mirrored.inverse
    rw [enroll_chord?, Portable.get?, Table.get?_insert]
    by_cases key : chord' = chord <;> by_cases self : other = id
    · simp [key, self]
    · simpa [key, self, Ne.symm self] using unowned
    · subst self
      simpa [key, Ne.symm key, before] using absent
    · simpa [key, self] using before

/-- What is released is taken out of the table and out of the map. -/
theorem withdraw (mirrored : b.Mirrored p) {id : HotkeyId} {chord : Chord}
    (owner : b.chord? id = some chord) :
    (b.withdraw id (.portable { entries := p.entries.erase chord })).Mirrored
      { entries := p.entries.erase chord } := by
  refine ⟨withdraw_backend .., ?_, ?_⟩
  · intro other holding entry
    rw [withdraw_handles] at entry
    exact mirrored.held (Table.get?_erase_eq_some_iff.mp entry).2
  · intro other chord'
    have before : p.entries.get? chord' = some other ↔ b.chord? other = some chord' :=
      mirrored.inverse
    rw [withdraw_chord?, Portable.get?, Table.get?_erase]
    by_cases key : chord' = chord <;> by_cases self : other = id
    · simp [key, self]
    · have entry := mirrored.inverse.mpr owner
      subst key
      simp only [if_true, if_neg self]
      constructor
      · intro taken
        cases taken
      · intro owner'
        exact absurd (Option.some.inj ((mirrored.inverse.mpr owner').symm.trans entry)) self
    · subst self
      simp only [if_neg key, if_true, before]
      constructor
      · intro owner'
        exact absurd (Option.some.inj (owner'.symm.trans owner)) key
      · intro taken
        cases taken
    · simpa [key, self] using before

/-- The release of a live identifier is accepted. -/
theorem release (mirrored : b.Mirrored p) (accepting : env.Accepting) {id : HotkeyId}
    {holding : Holding} (entry : b.handles.live.get? id = some holding) :
    b.backend.release env id holding.os =
      .ok (.portable { entries := p.entries.erase holding.chord }) := by
  have owner : b.chord? id = some holding.chord := congrArg (Option.map _) entry
  rw [mirrored.backend, (mirrored.held entry).1, release_accepting accepting,
    mirrored.inverse.mpr owner]
  rfl

end Mirrored

/-- Releases of combinations, one after the other, take the entries of these combinations out. One
that has no entry any more is skipped. -/
theorem releaseEach_accepting (accepting : env.Accepting) (p : Portable)
    (detached : List Detached) (portable : ∀ d ∈ detached, ∃ chord, d.os = .combination chord) :
    ∃ p', releaseEach env (.portable p) detached = .portable p' ∧
      ∀ {chord id}, p'.get? chord = some id →
        p.get? chord = some id ∧ ∀ d ∈ detached, d.os ≠ .combination chord := by
  induction detached generalizing p with
  | nil => exact ⟨p, rfl, fun entry => ⟨entry, nofun⟩⟩
  | cons d rest ih =>
    obtain ⟨chord, os⟩ := portable d List.mem_cons_self
    have others := fun d member => portable d (List.mem_cons_of_mem _ member)
    simp only [releaseEach, List.foldl_cons, Detached.release, os] at ih ⊢
    rw [release_accepting accepting]
    by_cases absent : (p.get? chord).isNone = true
    · rw [if_pos absent]
      obtain ⟨p', released, kept⟩ := ih p others
      refine ⟨p', released, fun {chord' id} entry => ?_⟩
      obtain ⟨before, different⟩ := kept entry
      refine ⟨before, List.forall_mem_cons.mpr ⟨?_, different⟩⟩
      rw [os]
      rintro ⟨⟩
      simp [before] at absent
    · rw [if_neg absent]
      obtain ⟨p', released, kept⟩ := ih _ others
      refine ⟨p', released, fun {chord' id} entry => ?_⟩
      obtain ⟨before, different⟩ := kept entry
      obtain ⟨other, before⟩ := Table.get?_erase_eq_some_iff.mp before
      refine ⟨before, List.forall_mem_cons.mpr ⟨?_, different⟩⟩
      rw [os]
      rintro ⟨⟩
      exact other rfl

namespace Mirrored

theorem shutdown (mirrored : b.Mirrored p) (accepting : env.Accepting) :
    ∃ p', (b.shutdown env).2.Mirrored p' := by
  have portable : ∀ d ∈ b.handles.detachAll.1, ∃ chord, d.os = .combination chord := by
    intro d member
    obtain ⟨⟨id, holding⟩, entry, rfl⟩ := List.mem_map.mp member
    exact ⟨holding.chord, (mirrored.held (Table.get?_eq_some_iff.mpr entry)).1⟩
  obtain ⟨p', released, kept⟩ := releaseEach_accepting accepting p _ portable
  refine ⟨p', ?_, ?_, ?_⟩
  · rw [shutdown_backend, mirrored.backend, released]
  · intro id holding entry
    rw [shutdown_handles] at entry
    cases entry
  · intro id chord
    have gone : (b.shutdown env).2.chord? id = none := by
      simp only [chord?, shutdown_handles]
      rfl
    rw [gone]
    constructor
    · intro entry
      -- an entry that is left would be that of an identifier that has just been given up
      obtain ⟨before, different⟩ := kept entry
      obtain ⟨holding, live, rfl⟩ := Option.map_eq_some_iff.mp (mirrored.inverse.mp before)
      refine absurd (mirrored.held live).1 (different ⟨id, holding.os⟩ ?_)
      exact List.mem_map.mpr ⟨(id, holding), Table.get?_eq_some_iff.mp live, rfl⟩
    · intro owner
      cases owner

/-- A registration that does not crowd keeps the mirror, whether it is accepted or not. -/
theorem register (mirrored : b.Mirrored p) (paired : b.Paired) (accepting : env.Accepting)
    {id : HotkeyId} {chord : Chord} (lone : b.crowds (.register env id chord) = false) :
    ∃ p', (b.register env id chord).2.Mirrored p' := by
  rw [paired.register_eq]
  by_cases registered : b.isRegistered id = true
  · rw [if_pos registered]
    exact ⟨p, mirrored⟩
  · rw [if_neg registered, mirrored.backend, register_accepting accepting]
    by_cases supported : Portable.supports chord.key = true
    · rw [if_pos supported]
      refine ⟨_, mirrored.enroll (Bool.eq_false_iff.mpr registered) ?_ supported⟩
      simpa [crowds, asks?, registered] using lone
    · rw [if_neg supported]
      exact ⟨p, mirrored⟩

/-- A registration that is taken back because of its handler is gone from the map as well. -/
theorem registerAndBind (mirrored : b.Mirrored p) (paired : b.Paired)
    (accepting : env.Accepting) {refusal : Option String} {id : HotkeyId} {chord : Chord}
    {handler : H} (lone : b.crowds (.registerAndBind env refusal id chord handler) = false) :
    ∃ p', (b.registerAndBind env refusal id chord handler).2.Mirrored p' := by
  rw [paired.registerAndBind_eq]
  by_cases registered : b.isRegistered id = true
  · rw [if_pos registered]
    exact ⟨p, mirrored⟩
  · rw [if_neg registered, mirrored.backend, register_accepting accepting]
    by_cases supported : Portable.supports chord.key = true
    · have vacant : b.hasChord chord = false := by
        simpa [crowds, asks?, registered] using lone
      have enrolled := mirrored.enroll (Bool.eq_false_iff.mpr registered) vacant supported
      rw [if_pos supported]
      cases refusal with
      | none => exact ⟨_, enrolled.congr rfl rfl⟩
      | some reason =>
        have released := enrolled.release accepting (b.enroll_get?_self id chord _ _)
        rw [enroll_backend] at released
        dsimp only
        rw [released]
        exact ⟨_, enrolled.withdraw (by rw [enroll_chord?, if_pos rfl])⟩
    · rw [if_neg supported]
      exact ⟨p, mirrored⟩

/-- A live registration is given up, and the system goes along. -/
theorem withdrawn (mirrored : b.Mirrored p) (accepting : env.Accepting) {id : HotkeyId}
    {holding : Holding} (entry : b.handles.live.get? id = some holding) :
    ∃ p', b.backend.release env id holding.os = .ok (.portable p') ∧
      (b.withdraw id (.portable p')).Mirrored p' :=
  ⟨_, mirrored.release accepting entry, mirrored.withdraw (congrArg (Option.map _) entry)⟩

/-- A live identifier can be given up, and the tables still mirror each other. -/
theorem unregister (mirrored : b.Mirrored p) (paired : b.Paired) (accepting : env.Accepting)
    (id : HotkeyId) :
    (b.isRegistered id = true → (b.unregister env id).1 = .done ()) ∧
      ∃ p', (b.unregister env id).2.Mirrored p' := by
  rw [paired.unregister_eq]
  cases entry : b.handles.live.get? id with
  | none =>
    refine ⟨fun registered => ?_, p, mirrored⟩
    obtain ⟨holding, live⟩ := isRegistered_iff.mp registered
    cases entry.symm.trans live
  | some holding =>
    obtain ⟨p', released, kept⟩ := mirrored.withdrawn accepting entry
    dsimp only
    rw [released]
    exact ⟨fun _ => rfl, p', kept⟩

theorem unregisterHandle (mirrored : b.Mirrored p) (paired : b.Paired)
    (accepting : env.Accepting) (h : Handle) :
    ∃ p', (b.unregisterHandle env h).2.Mirrored p' := by
  rw [paired.unregisterHandle_eq]
  cases entry : b.handles.live.get? h.id with
  | none => exact ⟨p, mirrored⟩
  | some holding =>
    obtain ⟨p', released, kept⟩ := mirrored.withdrawn accepting entry
    dsimp only
    rw [released]
    split
    · exact ⟨p', kept⟩
    · exact ⟨p, mirrored⟩

/-- The tables go on mirroring each other with each move that shares no combination. -/
theorem take (mirrored : b.Mirrored p) (paired : b.Paired) {m : Move H}
    (accepting : m.Accepting) (lone : b.crowds m = false) :
    ∃ p', (b.take m).2.Mirrored p' := by
  cases m with
  | register env id chord => exact mirrored.register paired (accepting env rfl) lone
  | registerAndBind env refusal id chord handler =>
    exact mirrored.registerAndBind paired (accepting env rfl) lone
  | unregister env id => exact (mirrored.unregister paired (accepting env rfl) id).2
  | unregisterHandle env h => exact mirrored.unregisterHandle paired (accepting env rfl) h
  | shutdown env => exact mirrored.shutdown (accepting env rfl)
  | bind refusal id handler =>
    simp only [Bridge.take, answer, paired.bind_eq]
    cases refusal with
    | some reason => exact ⟨p, mirrored⟩
    | none =>
      dsimp only
      split
      · exact ⟨p, mirrored.congr (discard_handles ..) (discard_backend ..)⟩
      · split
        · exact ⟨p, mirrored.congr rfl rfl⟩
        · exact ⟨p, mirrored.congr (discard_handles ..) (discard_backend ..)⟩
  | unbind id =>
    simp only [Bridge.take, answer, paired.unbind_eq]
    split
    · exact ⟨p, mirrored.congr (clearSlot_handles ..) (clearSlot_backend ..)⟩
    · split <;> exact ⟨p, mirrored⟩
  | enter id =>
    simp only [Bridge.take, Bridge.enter]
    split
    · exact ⟨p, mirrored.congr rfl rfl⟩
    · exact ⟨p, mirrored⟩
  | leave => exact ⟨p, mirrored.congr (leave_handles b) (leave_backend b)⟩
  | listen listeners => exact ⟨p, mirrored.congr rfl rfl⟩

end Mirrored

/-! ## Shared combinations -/

/-- A table with an entry that the system no longer knows is not exclusive. -/
theorem not_exclusive (id : HotkeyId) {holding : Holding} {chord : Chord}
    (backend : b.backend = .portable p) (entry : b.handles.live.get? id = some holding)
    (os : holding.os = .combination chord) (lost : p.get? chord ≠ some id) :
    ¬ b.Exclusive := by
  rintro ⟨p', backend', mine⟩
  cases backend.symm.trans backend'
  obtain ⟨chord', os', owner⟩ := mine id holding entry
  cases os.symm.trans os'
  exact lost owner

/-- Of two identifiers that hold the same combination, only the one that is given up first can
give it up. -/
theorem Paired.unregister_shared (paired : b.Paired) (accepting : env.Accepting)
    (backend : b.backend = .portable p) {first second owner : HotkeyId} {chord : Chord}
    {holding holding' : Holding} (different : second ≠ first)
    (entry : b.handles.live.get? first = some holding)
    (entry' : b.handles.live.get? second = some holding')
    (os : holding.os = .combination chord) (os' : holding'.os = .combination chord)
    (known : p.get? chord = some owner) :
    (b.unregister env first).1 = .done () ∧
      ((b.unregister env first).2.unregister env second).1 =
        .failed (.unregistration second "handle is not live") := by
  have released : b.backend.release env first holding.os =
      .ok (.portable { entries := p.entries.erase chord }) := by
    rw [backend, os, release_accepting accepting, known]
    rfl
  have withdrawn : b.unregister env first =
      (.done (), b.withdraw first (.portable { entries := p.entries.erase chord })) := by
    simp only [paired.unregister_eq, entry, released]
  have left : (b.withdraw first (.portable { entries := p.entries.erase chord })).handles.live.get?
      second = some holding' := by
    rw [withdraw_handles]
    exact Table.get?_erase_eq_some_iff.mpr ⟨different, entry'⟩
  have gone : (({ entries := p.entries.erase chord } : Portable).get? chord).isNone = true := by
    simp [Portable.get?, Table.get?_erase]
  rw [withdrawn]
  refine ⟨rfl, ?_⟩
  dsimp only
  rw [(paired.withdraw _ _).unregister_eq, left, withdraw_backend]
  dsimp only
  rw [os', release_accepting accepting, if_pos gone]

namespace Mirrored

variable {id other : HotkeyId} {chord : Chord}

/-- A combination that is taken is registered once more, for both identifiers. -/
theorem enroll_crowded (mirrored : b.Mirrored p) (accepting : env.Accepting)
    (free : b.isRegistered id = false) (owner : b.chord? other = some chord) :
    let backend : Backend := .portable { entries := p.entries.insert chord id }
    b.backend.register env id chord = .ok (.combination chord, backend) ∧ other ≠ id ∧
      ∃ holding, holding.os = .combination chord ∧
        b.handles.live.get? other = some holding ∧
        (b.enroll id chord (.combination chord) backend).handles.live.get? other =
          some holding := by
  obtain ⟨holding, entry, rfl⟩ := Option.map_eq_some_iff.mp owner
  obtain ⟨os, supported⟩ := mirrored.held entry
  have different : other ≠ id := by
    rintro rfl
    exact absurd (isRegistered_of_chord? owner) (by simp [free])
  refine ⟨?_, different, holding, os, entry, ?_⟩
  · rw [mirrored.backend, register_accepting accepting, if_pos supported]
  · exact Table.get?_insert_eq_some_iff.mpr (.inr ⟨different, entry⟩)

/-- The first request for a combination that is taken costs its owner the entry of the map, even
where the new registration comes to nothing. -/
theorem crowded (mirrored : b.Mirrored p) (paired : b.Paired) {m : Move H}
    (accepting : m.Accepting) (crowds : b.crowds m = true) : ¬ (b.take m).2.Exclusive := by
  obtain ⟨chord, asked, taken⟩ : ∃ chord, b.asks? m = some chord ∧ b.hasChord chord = true := by
    simpa [Bridge.crowds, Option.any_eq_true] using crowds
  obtain ⟨other, owner⟩ := hasChord_iff.mp taken
  have new : ∀ {id chord'}, (if b.isRegistered id then none else some chord') = some chord →
      b.isRegistered id = false ∧ chord' = chord := by
    intro id chord' asked
    split at asked
    · cases asked
    · exact ⟨Bool.eq_false_iff.mpr ‹_›, Option.some.inj asked⟩
  cases m with
  | register env id chord' =>
    obtain ⟨free, rfl⟩ := new asked
    obtain ⟨answer, different, holding, os, -, entry⟩ :=
      mirrored.enroll_crowded (accepting env rfl) free owner
    simp only [Bridge.take, Bridge.answer, paired.register_eq, free, answer, Bool.false_eq_true,
      if_false]
    refine not_exclusive other rfl entry os ?_
    simp [Portable.get?, Table.get?_insert, Ne.symm different]
  | registerAndBind env refusal id chord' handler =>
    obtain ⟨free, rfl⟩ := new asked
    obtain ⟨answer, different, holding, os, -, entry⟩ :=
      mirrored.enroll_crowded (accepting env rfl) free owner
    simp only [Bridge.take, Bridge.answer, paired.registerAndBind_eq, free, answer,
      Bool.false_eq_true, if_false, release_accepting (accepting env rfl)]
    cases refusal with
    | none =>
      refine not_exclusive other rfl entry os ?_
      simp [Portable.get?, Table.get?_insert, Ne.symm different]
    | some reason =>
      have known : ({ entries := p.entries.insert chord' id } : Portable).get? chord' = some id :=
        (Table.get?_insert ..).trans (if_pos rfl)
      simp only [known, Option.isNone_some, Bool.false_eq_true, if_false]
      refine not_exclusive other (withdraw_backend ..) ?_ os ?_
      · rw [withdraw_handles]
        exact Table.get?_erase_eq_some_iff.mpr ⟨different, entry⟩
      · simp [Portable.get?, Table.get?_erase]
  | _ => cases asked

end Mirrored

theorem new_mirrored (strict : Bool) : (new (.portable {}) strict : Bridge H).Mirrored {} :=
  ⟨rfl, nofun, ⟨nofun, nofun⟩⟩

/-- The mirror lasts until the first request for a combination that is taken, and so does the
exclusive hold of every identifier. -/
theorem Mirrored.run (mirrored : b.Mirrored p) (paired : b.Paired) {moves : List (Move H)}
    (accepting : ∀ m ∈ moves, m.Accepting) :
    (b.crowdsIn moves = false → ∃ p', (b.run moves).Mirrored p') ∧
      (b.crowdsIn moves = false ↔ ∀ front, front <+: moves → (b.run front).Exclusive) := by
  induction moves generalizing b p with
  | nil =>
    refine ⟨fun _ => ⟨p, mirrored⟩, fun _ front prefixes => ?_, fun _ => rfl⟩
    rw [List.prefix_nil.mp prefixes]
    exact mirrored.exclusive
  | cons m rest ih =>
    obtain ⟨first, others⟩ := List.forall_mem_cons.mp accepting
    simp only [crowdsIn, Bool.or_eq_false_iff]
    by_cases crowds : b.crowds m = true
    · refine ⟨fun lone => absurd crowds (by simp [lone.1]), fun lone => absurd crowds
        (by simp [lone.1]), fun exclusive => ?_⟩
      have shared := mirrored.crowded paired first crowds
      exact absurd (exclusive [m] ⟨rest, rfl⟩) shared
    · have lone : b.crowds m = false := Bool.eq_false_iff.mpr crowds
      obtain ⟨p', mirrored'⟩ := mirrored.take paired first lone
      obtain ⟨reach, exactly⟩ := ih mirrored' (paired.take m) others
      refine ⟨fun both => reach both.2, fun both front prefixes => ?_, fun exclusive => ?_⟩
      · cases front with
        | nil => exact mirrored.exclusive
        | cons m' front =>
          obtain ⟨rfl, shorter⟩ := List.cons_prefix_cons.mp prefixes
          exact exactly.mp both.2 front shorter
      · refine ⟨lone, exactly.mpr fun front prefixes => ?_⟩
        exact exclusive (m :: front) (List.cons_prefix_cons.mpr ⟨rfl, prefixes⟩)

/-- In a run over the portable backend that accepts whatever can be accepted, every live identifier
has its combination to itself, in every state of the run, exactly if no move asks for a combination
that another live identifier has. Then the map of the backend is the table read backwards, and to
give one identifier up does not stand in the way of another. The next request for a combination
that is taken succeeds all the same: the combination has two identifiers, and the one that is given
up second cannot be given up any more. -/
theorem exclusive_run (strict : Bool) (moves : List (Move H))
    (accepting : ∀ m ∈ moves, m.Accepting) :
    let start : Bridge H := new (.portable {}) strict
    let b := start.run moves
    (start.crowdsIn moves = false ↔ ∀ front, front <+: moves → (start.run front).Exclusive) ∧
    (start.crowdsIn moves = false →
      (∃ p, b.backend = .portable p ∧
        ∀ id chord, p.get? chord = some id ↔ b.chord? id = some chord) ∧
      (∀ id id' holding holding', b.handles.live.get? id = some holding →
        b.handles.live.get? id' = some holding' → holding.os = holding'.os → id = id') ∧
      ∀ env : Conditions, env.Accepting →
        (∀ first second, first ≠ second → b.isRegistered first = true →
          b.isRegistered second = true →
          (b.unregister env first).1 = .done () ∧
            ((b.unregister env first).2.unregister env second).1 = .done ()) ∧
        ∀ id other chord, b.isRegistered id = false → b.chord? other = some chord →
          (b.register env id chord).1 = .done ⟨id, b.handles.nextSerial⟩ ∧
          let shared := (b.register env id chord).2
          ∀ first second, (first, second) = (id, other) ∨ (first, second) = (other, id) →
            (shared.unregister env first).1 = .done () ∧
              ((shared.unregister env first).2.unregister env second).1 =
                .failed (.unregistration second "handle is not live")) := by
  intro start b
  have paired : b.Paired := (new_paired _ strict).run moves
  obtain ⟨reach, exactly⟩ := (new_mirrored strict).run (new_paired _ strict) accepting
  refine ⟨exactly, fun lone => ?_⟩
  obtain ⟨p, mirrored⟩ : ∃ p, b.Mirrored p := reach lone
  refine ⟨⟨p, mirrored.backend, fun _ _ => mirrored.inverse⟩, fun _ _ _ _ => mirrored.eq_of_os,
    fun env accepting => ⟨?_, ?_⟩⟩
  · intro first second different live live'
    obtain ⟨done, p', mirrored'⟩ := mirrored.unregister paired accepting first
    have before := paired.lives second
    have after : (b.perform (.unregister env first)).2.Lives second (b.life second) :=
      paired.perform_other (Ne.symm different) before
    have kept : (b.unregister env first).2.isRegistered second = true :=
      (after.isRegistered.trans before.isRegistered.symm).trans live'
    have paired' : (b.unregister env first).2.Paired := paired.take (.unregister env first)
    exact ⟨done live, (mirrored'.unregister paired' accepting second).1 kept⟩
  · intro id other chord free owner
    obtain ⟨answer, different, holding, os, entry, entry'⟩ :=
      mirrored.enroll_crowded accepting free owner
    have registered : b.register env id chord = (.done ⟨id, b.handles.nextSerial⟩,
        b.enroll id chord (.combination chord)
          (.portable { entries := p.entries.insert chord id })) := by
      rw [paired.register_eq, free, answer]
      rfl
    rw [registered]
    refine ⟨rfl, ?_⟩
    have paired' := paired.enroll id chord (.combination chord)
      (.portable { entries := p.entries.insert chord id })
    have known : ({ entries := p.entries.insert chord id } : Portable).get? chord = some id :=
      (Table.get?_insert ..).trans (if_pos rfl)
    have own := b.enroll_get?_self id chord (.combination chord)
      (.portable { entries := p.entries.insert chord id })
    rintro shared first second (⟨⟨⟩⟩ | ⟨⟨⟩⟩)
    · exact paired'.unregister_shared accepting rfl different own entry' rfl os known
    · exact paired'.unregister_shared accepting rfl (Ne.symm different) entry' own os rfl known

/-- Hotkey 3 takes the combination that hotkey 1 has given up, and nobody is in the way. -/
theorem exclusive_run_reused :
    let a : Chord := { key := 0x00 }
    let moves : List (Move Unit) :=
      [.registerAndBind {} none 1 a (), .register {} 2 { key := 0x01 }, .unregister {} 1,
        .register {} 3 a]
    let b := (new (.portable {}) true).run moves
    b.Exclusive ∧ b.chord? 3 = some a ∧ (b.unregister {} 3).1 = .done () ∧
      ((b.unregister {} 3).2.unregister {} 2).1 = .done () := by
  intro a moves b
  have accepting : ∀ m ∈ moves, m.Accepting := by
    simp [moves, Move.Accepting, Move.conditions?, Conditions.accepting_default]
  obtain ⟨exactly, exclusive⟩ := exclusive_run true moves accepting
  have lone : (new (.portable {}) true).crowdsIn moves = false := by decide
  obtain ⟨-, -, alone⟩ := exclusive lone
  obtain ⟨release, -⟩ := alone {} Conditions.accepting_default
  obtain ⟨first, second⟩ := release 3 2 (by decide) (by decide) (by decide)
  exact ⟨exactly.mp lone moves (List.prefix_refl moves), by decide, first, second⟩

/-- Two hotkeys register the same combination. Both are accepted, and when the first one is given
up, the second one has nothing left that could be given up. -/
theorem shared_combination :
    let a : Chord := { key := 0x00 }
    let moves : List (Move Unit) := [.register {} 1 a, .register {} 2 a]
    let b := (new (.portable {}) true).run moves
    (∀ m ∈ moves, m.Accepting) ∧ b.chord? 1 = some a ∧ b.chord? 2 = some a ∧ ¬ b.Exclusive ∧
      (b.unregister {} 1).1 = .done () ∧
      ((b.unregister {} 1).2.unregister {} 2).1 =
        .failed (.unregistration 2 "handle is not live") := by
  intro a moves b
  refine ⟨?_, by decide, by decide, ?_, by decide, by decide⟩
  · simp [moves, Move.Accepting, Move.conditions?, Conditions.accepting_default]
  · rintro ⟨p, backend, mine⟩
    cases backend
    obtain ⟨chord, os, owner⟩ := mine 1 ⟨.combination a, a, 1⟩ (by decide)
    cases os
    cases owner

end Hotkeys.Bridge
