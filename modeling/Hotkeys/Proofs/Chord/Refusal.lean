import Hotkeys.Proofs.Chord.Grammar

/-!
# Why a text is refused

A text is refused for its key, or for the first piece in front of the key that is no name of a
modifier. The key is looked at first, and what stands behind the first such piece is not looked at.
-/

namespace Hotkeys.Chord

open Text

variable {e : Error} {key : List Char}

/-- Whether a piece is no name of a modifier. -/
def isStrange (piece : List Char) : Bool := (Modifier.named? (trim piece)).isNone

/-- What a text is told about a piece of it that is no name of a modifier. A blank piece and a
further key are faults of the text, and anything else is a modifier that nobody knows. -/
def strangeError (whole : String) (piece : List Char) : Error :=
  if trim piece = [] ∨ (KeyCode.read? (trim piece)).isSome then .invalidKey whole
  else .invalidModifier (String.ofList (trim piece))

theorem addModifier_eq (whole : String) (held : ModifierSet) (piece : List Char) :
    addModifier whole held piece =
      match Modifier.named? (trim piece) with
      | some m => .ok (held.insert m)
      | none => .error (strangeError whole piece) := by
  unfold addModifier strangeError
  dsimp only
  by_cases blank : trim piece = []
  · simp [blank, Modifier.named?_nil]
  · cases Modifier.named? (trim piece) with
    | some m => simp [blank]
    | none => cases KeyCode.read? (trim piece) <;> simp [blank]

/-- Adding modifiers fails at the first piece that is none. -/
theorem foldlM_addModifier_eq_error_iff {whole : String} (pieces : List (List Char))
    (held : ModifierSet) :
    pieces.foldlM (addModifier whole) held = .error e ↔
      ∃ piece, pieces.find? isStrange = some piece ∧ e = strangeError whole piece := by
  induction pieces generalizing held with
  | nil => simp [pure, Except.pure]
  | cons piece rest ih =>
    rw [List.foldlM_cons, List.find?_cons, addModifier_eq]
    unfold isStrange
    cases Modifier.named? (trim piece) with
    | some m => exact ih (held.insert m)
    | none => simp [bind, Except.bind, eq_comm]

theorem assemble_eq_error_iff {cause : Error} {held : Except Error ModifierSet} :
    assemble cause key held = .error e ↔
      KeyCode.read? key = none ∧ e = cause ∨ (KeyCode.read? key).isSome ∧ held = .error e := by
  unfold assemble
  cases KeyCode.read? key with
  | none => simp [eq_comm]
  | some code => cases held <;> simp [Except.map]

theorem parse_eq_error_iff (s : String) (e : Error) :
    let cs := trim s.toList
    let whole := String.ofList cs
    parse s = .error e ↔
      KeyCode.read? (pieces cs).2 = none ∧ e = .invalidKey whole ∨
      (KeyCode.read? (pieces cs).2).isSome ∧
        ∃ piece, (pieces cs).1.find? isStrange = some piece ∧ e = strangeError whole piece := by
  intro cs whole
  rw [parse_eq, assemble_eq_error_iff, foldlM_addModifier_eq_error_iff]

/-- A text whose key is none is refused as a whole. If its key is one, the first piece in front of
the key that is no name of a modifier decides: if this piece is blank or a key the text is refused
as a whole, and else for the piece. What stands behind this piece has no part in it, so two texts
that begin with the same pieces up to one that is no name of a modifier are refused for the same
piece. -/
theorem parse_refusal :
    (∀ s e, let cs := trim s.toList
      parse s = .error e ↔
        KeyCode.read? (pieces cs).2 = none ∧ e = .invalidKey (String.ofList cs) ∨
        (KeyCode.read? (pieces cs).2).isSome ∧ ∃ before piece after,
          (pieces cs).1 = before ++ piece :: after ∧
          (∀ earlier ∈ before, (Modifier.named? (trim earlier)).isSome) ∧
          Modifier.named? (trim piece) = none ∧
          e = strangeError (String.ofList cs) piece) ∧
    ∀ s s' front behind behind', let cs := trim s.toList
      let cs' := trim s'.toList
      (pieces cs).1 = front ++ behind → (pieces cs').1 = front ++ behind' →
      (KeyCode.read? (pieces cs).2).isSome → (KeyCode.read? (pieces cs').2).isSome →
      (∃ piece ∈ front, Modifier.named? (trim piece) = none) →
      ∃ piece ∈ front, parse s = .error (strangeError (String.ofList cs) piece) ∧
        parse s' = .error (strangeError (String.ofList cs') piece) := by
  have strange : ∀ piece, isStrange piece = true ↔ Modifier.named? (trim piece) = none :=
    fun _ => Option.isNone_iff_eq_none
  have known : ∀ piece, (!isStrange piece) = true ↔ (Modifier.named? (trim piece)).isSome := by
    intro piece
    simp [isStrange]
  constructor
  · intro s e cs
    simp only [parse_eq_error_iff, List.find?_eq_some_iff_append, strange, known]
    constructor
    · rintro (key | ⟨key, piece, ⟨odd, before, after, split, named⟩, rfl⟩)
      · exact .inl key
      · exact .inr ⟨key, before, piece, after, split, named, odd, rfl⟩
    · rintro (key | ⟨key, before, piece, after, split, named, odd, rfl⟩)
      · exact .inl key
      · exact .inr ⟨key, piece, ⟨odd, before, after, split, named⟩, rfl⟩
  · intro s s' front behind behind' cs cs' split split' key key' ⟨other, member, odd⟩
    obtain ⟨piece, found⟩ := Option.isSome_iff_exists.mp
      (List.find?_isSome.mpr ⟨other, member, (strange other).mpr odd⟩)
    refine ⟨piece, List.mem_of_find?_eq_some found, ?_, ?_⟩
    · refine (parse_eq_error_iff s _).mpr (.inr ⟨key, piece, ?_, rfl⟩)
      rw [split, List.find?_append, found, Option.some_or]
    · refine (parse_eq_error_iff s' _).mpr (.inr ⟨key', piece, ?_, rfl⟩)
      rw [split', List.find?_append, found, Option.some_or]

/-- A key in the place of a modifier is met before the modifier that nobody knows. -/
example : parse " cmd + a + hyper + b " = .error (.invalidKey "cmd + a + hyper + b") := by
  decide +kernel

end Hotkeys.Chord
