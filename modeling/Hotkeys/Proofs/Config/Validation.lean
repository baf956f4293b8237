import Hotkeys.Config.Basic
import Mathlib.Data.List.Nodup

/-!
# What a validated configuration guarantees

The check of the bindings remembers what it has seen, and it succeeds exactly if no identifier and
no combination comes up twice. A configuration also keeps its identifiers below those of scripts.
Of several faults the first one is reported, and `IsFirst` says which one that is.
-/

namespace Hotkeys

variable {bindings : List Binding} {ids : List HotkeyId} {chords : List Chord}

/-- A check passes if nothing repeats what is in front of it, within the list or before. -/
theorem Bindings.checkFrom_eq_ok_iff :
    checkFrom ids chords bindings = .ok () ↔
      (bindings.map (·.id)).Nodup ∧ (bindings.map (·.chord)).Nodup ∧
        ∀ b ∈ bindings, b.id ∉ ids ∧ b.chord ∉ chords := by
  induction bindings generalizing ids chords with
  | nil => simp [checkFrom]
  | cons b rest ih =>
    simp only [checkFrom, List.contains_iff_mem, List.map_cons, List.nodup_cons,
      List.forall_mem_cons]
    by_cases id : b.id ∈ ids
    · simp [id]
    · by_cases chord : b.chord ∈ chords
      · simp [id, chord]
      · -- what the rest must not repeat is what has been seen, and this binding
        rw [if_neg id, if_neg chord, ih]
        simp only [List.mem_cons, List.mem_map, not_exists, not_and, not_or]
        grind

theorem Bindings.validate_eq_ok_iff {bs : Bindings} :
    bs.validate = .ok () ↔
      (bs.list.map (·.id)).Nodup ∧ (bs.list.map (·.chord)).Nodup := by
  simp [validate, checkFrom_eq_ok_iff]

/-- When a configuration is valid. -/
theorem Config.validate_eq_ok_iff {c : Config} :
    c.validate = .ok () ↔
      (c.hotkeys.list.map (·.id)).Nodup ∧ (c.hotkeys.list.map (·.chord)).Nodup ∧
        ∀ b ∈ c.hotkeys.list, b.id < c.script.idBase := by
  have below : (c.hotkeys.list.find? fun b => decide (c.script.idBase ≤ b.id)) = none ↔
      ∀ b ∈ c.hotkeys.list, b.id < c.script.idBase := by
    simp [List.find?_eq_none]
  rw [← below, ← and_assoc, ← Bindings.validate_eq_ok_iff]
  unfold validate
  cases c.hotkeys.validate with
  | error e => simp
  | ok =>
    cases c.hotkeys.list.find? fun b => decide (c.script.idBase ≤ b.id) <;> simp

/-! ## What is reported -/

section First

variable {α : Type} {P : List α → α → Prop} {a b : α} {rest earlier : List α}

/-- The first element of a list with a property, which may be about those in front of it. -/
structure IsFirst (P : List α → α → Prop) (list earlier : List α) (a : α) : Prop where
  within : earlier ++ [a] <+: list
  holds : P earlier a
  least : ∀ before x, before ++ [x] <+: earlier → ¬ P before x

theorem not_isFirst_nil : ¬ IsFirst P [] earlier a := by
  intro first
  simpa using List.prefix_nil.mp first.within

/-- The first one is at the front, or it is the first one behind the front. -/
theorem isFirst_cons_iff :
    IsFirst P (a :: rest) earlier b ↔
      (earlier = [] ∧ b = a ∧ P [] a) ∨
        ∃ tail, earlier = a :: tail ∧ ¬ P [] a ∧
          IsFirst (fun before x => P (a :: before) x) rest tail b := by
  constructor
  · rintro ⟨within, holds, least⟩
    cases earlier with
    | nil =>
      obtain ⟨rfl, -⟩ := List.cons_prefix_cons.mp within
      exact .inl ⟨rfl, rfl, holds⟩
    | cons first tail =>
      obtain ⟨rfl, behind⟩ := List.cons_prefix_cons.mp within
      refine .inr ⟨tail, rfl, least [] first ?_, behind, holds, ?_⟩
      · exact List.cons_prefix_cons.mpr ⟨rfl, List.nil_prefix⟩
      · intro before x inside
        exact least (first :: before) x (List.cons_prefix_cons.mpr ⟨rfl, inside⟩)
  · rintro (⟨rfl, rfl, holds⟩ | ⟨tail, rfl, front, within, holds, least⟩)
    · refine ⟨List.cons_prefix_cons.mpr ⟨rfl, List.nil_prefix⟩, holds, ?_⟩
      intro before x inside
      simp at inside
    · refine ⟨List.cons_prefix_cons.mpr ⟨rfl, within⟩, holds, ?_⟩
      intro before x inside
      cases before with
      | nil =>
        obtain ⟨rfl, -⟩ := List.cons_prefix_cons.mp inside
        exact front
      | cons first before =>
        obtain ⟨rfl, behind⟩ := List.cons_prefix_cons.mp inside
        exact least before x behind

/-- A search finds the first one. -/
theorem find?_eq_some_iff_isFirst {p : α → Bool} {list : List α} :
    list.find? p = some b ↔ ∃ earlier, IsFirst (fun _ x => p x = true) list earlier b := by
  induction list with
  | nil => simp [not_isFirst_nil]
  | cons a rest ih =>
    rw [List.find?_cons]
    simp only [isFirst_cons_iff]
    cases holds : p a with
    | true => simpa using eq_comm
    | false => simp [ih]

end First

/-- The binding has an identifier or a combination that one of the earlier bindings has. -/
def Binding.Repeats (earlier : List Binding) (b : Binding) : Prop :=
  (∃ x ∈ earlier, x.id = b.id) ∨ ∃ x ∈ earlier, x.chord = b.chord

/-- What is said against a binding that repeats something. The identifier comes first. -/
inductive Binding.Fault (earlier : List Binding) (b : Binding) : Error → Prop
  | identifier (taken : ∃ x ∈ earlier, x.id = b.id) : Fault earlier b (.duplicateIdentifier b.id)
  | combination (free : ∀ x ∈ earlier, x.id ≠ b.id) (taken : ∃ x ∈ earlier, x.chord = b.chord) :
    Fault earlier b (.registration b.chord.text "key combination is bound more than once")

namespace Binding

variable {seen rest : List Binding} {b : Binding} {e : Error}

theorem fault_of_id_taken (taken : ∃ x ∈ seen, x.id = b.id) :
    Fault seen b e ↔ e = .duplicateIdentifier b.id := by
  constructor
  · rintro (- | ⟨free, -⟩)
    · rfl
    · obtain ⟨x, member, same⟩ := taken
      exact absurd same (free x member)
  · rintro rfl
    exact .identifier taken

theorem fault_of_id_free (free : ∀ x ∈ seen, x.id ≠ b.id) (taken : ∃ x ∈ seen, x.chord = b.chord) :
    Fault seen b e ↔
      e = .registration b.chord.text "key combination is bound more than once" := by
  constructor
  · rintro (⟨x, member, same⟩ | -)
    · exact absurd same (free x member)
    · rfl
  · rintro rfl
    exact .combination free taken

/-- The first of the bindings that repeats something has this fault. -/
def FirstFault (seen bindings : List Binding) (e : Error) : Prop :=
  ∃ earlier b, IsFirst (fun earlier => Repeats (seen ++ earlier)) bindings earlier b ∧
    Fault (seen ++ earlier) b e

theorem not_firstFault_nil : ¬ FirstFault seen [] e := by
  rintro ⟨earlier, b, first, -⟩
  exact not_isFirst_nil first

/-- A binding that repeats another one decides what is reported. -/
theorem firstFault_cons_of_repeats (repeats : b.Repeats seen) :
    FirstFault seen (b :: rest) e ↔ Fault seen b e := by
  simp [FirstFault, isFirst_cons_iff, repeats]

/-- A binding that repeats nothing is passed over, and what follows must not repeat it. -/
theorem firstFault_cons_of_new (new : ¬ b.Repeats seen) :
    FirstFault seen (b :: rest) e ↔ FirstFault (seen ++ [b]) rest e := by
  simp only [FirstFault, isFirst_cons_iff, List.append_nil, new, and_false, not_false_eq_true,
    true_and, false_or, List.append_assoc, List.singleton_append]
  constructor
  · rintro ⟨_, x, ⟨tail, rfl, first⟩, fault⟩
    exact ⟨tail, x, first, fault⟩
  · rintro ⟨tail, x, first, fault⟩
    exact ⟨b :: tail, x, ⟨tail, rfl, first⟩, fault⟩

end Binding

/-- The check knows no more of the earlier bindings than their identifiers and combinations. -/
theorem Bindings.checkFrom_eq_error_iff {seen : List Binding} {e : Error}
    (ids_iff : ∀ id, id ∈ ids ↔ ∃ x ∈ seen, x.id = id)
    (chords_iff : ∀ chord, chord ∈ chords ↔ ∃ x ∈ seen, x.chord = chord) :
    checkFrom ids chords bindings = .error e ↔ Binding.FirstFault seen bindings e := by
  induction bindings generalizing seen ids chords with
  | nil => simp [checkFrom, Binding.not_firstFault_nil]
  | cons b rest ih =>
    simp only [checkFrom, List.contains_iff_mem]
    by_cases id : b.id ∈ ids
    · have taken := (ids_iff b.id).mp id
      rw [if_pos id, Binding.firstFault_cons_of_repeats (.inl taken),
        Binding.fault_of_id_taken taken, Except.error.injEq, eq_comm]
    · have free : ∀ x ∈ seen, x.id ≠ b.id := fun x member same =>
        id ((ids_iff b.id).mpr ⟨x, member, same⟩)
      by_cases chord : b.chord ∈ chords
      · have taken := (chords_iff b.chord).mp chord
        rw [if_neg id, if_pos chord, Binding.firstFault_cons_of_repeats (.inr taken),
          Binding.fault_of_id_free free taken, Except.error.injEq, eq_comm]
      · have new : ¬ b.Repeats seen := by
          rintro (taken | taken)
          · exact id ((ids_iff b.id).mpr taken)
          · exact chord ((chords_iff b.chord).mpr taken)
        rw [if_neg id, if_neg chord, Binding.firstFault_cons_of_new new]
        -- the binding joins those that have been seen
        apply ih
        · intro other
          simp [ids_iff, or_comm, eq_comm]
        · intro other
          simp [chords_iff, or_comm, eq_comm]

theorem Bindings.validate_eq_error_iff {bs : Bindings} {e : Error} :
    bs.validate = .error e ↔ Binding.FirstFault [] bs.list e :=
  checkFrom_eq_error_iff (by simp) (by simp)

example : Bindings.validate ⟨[⟨1, { key := 65 }, none⟩, ⟨1, { key := 65 }, none⟩]⟩ =
    .error (.duplicateIdentifier 1) := rfl

/-- The identifiers are held against those of scripts once the bindings by themselves are in order.
-/
theorem Config.validate_eq_error_iff {c : Config} {message : String} :
    c.validate = .error message ↔
      (∃ e, c.hotkeys.validate = .error e ∧ message = e.message) ∨
      c.hotkeys.validate = .ok () ∧
        ∃ earlier b, IsFirst (fun _ x => c.script.idBase ≤ x.id) c.hotkeys.list earlier b ∧
          message =
            s!"binding id {b.id} collides with script id range starting at {c.script.idBase}" := by
  have first : ∀ b, (c.hotkeys.list.find? fun b => decide (c.script.idBase ≤ b.id)) = some b ↔
      ∃ earlier, IsFirst (fun _ x => c.script.idBase ≤ x.id) c.hotkeys.list earlier b := by
    intro b
    rw [find?_eq_some_iff_isFirst]
    simp only [decide_eq_true_eq]
  unfold validate
  cases c.hotkeys.validate with
  | error e => simp [eq_comm]
  | ok =>
    cases found : c.hotkeys.list.find? fun b => decide (c.script.idBase ≤ b.id) with
    | none =>
      have none_first : ∀ earlier b,
          ¬ IsFirst (fun _ x => c.script.idBase ≤ x.id) c.hotkeys.list earlier b := by
        intro earlier b least
        cases found.symm.trans ((first b).mpr ⟨earlier, least⟩)
      simp [none_first]
    | some b =>
      obtain ⟨earlier, least⟩ := (first b).mp found
      constructor
      · rintro ⟨⟩
        exact .inr ⟨rfl, earlier, b, least, rfl⟩
      · rintro (⟨_, ⟨⟩, -⟩ | ⟨-, earlier', b', least', rfl⟩)
        cases found.symm.trans ((first b').mpr ⟨earlier', least'⟩)
        rfl

/-- A configuration is valid exactly if no identifier and no combination comes up twice in its
bindings and all identifiers are below those of scripts. Otherwise the first binding that repeats
something is reported, for its identifier if that is what it repeats and for its combination if not;
only where there is no such binding, it is the first one whose identifier is not below those of
scripts. The bindings by themselves are checked in the same way without the last step. Their order
does not matter for whether they are valid. -/
theorem Config.validate_verdict (c : Config) :
    let list := c.hotkeys.list
    let distinct := (list.map (·.id)).Nodup ∧ (list.map (·.chord)).Nodup
    (c.validate = .ok () ↔ distinct ∧ ∀ b ∈ list, b.id < c.script.idBase) ∧
    (c.hotkeys.validate = .ok () ↔ distinct) ∧
    (∀ e, c.hotkeys.validate = .error e ↔
      ∃ earlier b, IsFirst Binding.Repeats list earlier b ∧ b.Fault earlier e) ∧
    (∀ message, c.validate = .error message ↔
      (∃ earlier b e, IsFirst Binding.Repeats list earlier b ∧ b.Fault earlier e ∧
        message = e.message) ∨
      distinct ∧ ∃ earlier b, IsFirst (fun _ x => c.script.idBase ≤ x.id) list earlier b ∧
        message =
          s!"binding id {b.id} collides with script id range starting at {c.script.idBase}") ∧
    ∀ other : Bindings, other.list.Perm list →
      (other.validate = .ok () ↔ c.hotkeys.validate = .ok ()) ∧
      (({ c with hotkeys := other } : Config).validate = .ok () ↔ c.validate = .ok ()) := by
  intro list distinct
  have report : ∀ e, c.hotkeys.validate = .error e ↔
      ∃ earlier b, IsFirst Binding.Repeats list earlier b ∧ b.Fault earlier e := fun e =>
    Bindings.validate_eq_error_iff
  refine ⟨?_, Bindings.validate_eq_ok_iff, report, ?_, ?_⟩
  · rw [validate_eq_ok_iff, and_assoc]
  · intro message
    rw [validate_eq_error_iff, Bindings.validate_eq_ok_iff]
    apply or_congr_left
    simp only [report]
    constructor
    · rintro ⟨e, ⟨earlier, b, first, fault⟩, same⟩
      exact ⟨earlier, b, e, first, fault, same⟩
    · rintro ⟨earlier, b, e, first, fault, same⟩
      exact ⟨e, ⟨earlier, b, first, fault⟩, same⟩
  · intro other order
    have ids := (order.map (·.id)).nodup_iff
    have chords := (order.map (·.chord)).nodup_iff
    constructor
    · rw [Bindings.validate_eq_ok_iff, Bindings.validate_eq_ok_iff, ids, chords]
    · rw [validate_eq_ok_iff, validate_eq_ok_iff, ids, chords]
      simp only [order.mem_iff]
      rfl

end Hotkeys
