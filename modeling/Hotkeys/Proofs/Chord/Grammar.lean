import Hotkeys.Proofs.Chord.Pieces

/-!
# What is read as a combination

A text is read as a combination exactly if it is names of modifiers and a key with plus signs
between them, and then it is read as the combination that is put together from these parts.
-/

namespace Hotkeys.Chord

open Text

variable {modifiers : List (List Char)} {key : List Char} {c : Chord}

/-! ## Both ways of reading -/

/-- A key and what has been read of its modifiers. The key is looked at first. -/
def assemble (e : Error) (key : List Char) (held : Except Error ModifierSet) :
    Except Error Chord :=
  match KeyCode.read? key with
  | none => .error e
  | some code => held.map fun held => { key := code, modifiers := held }

/-- Adds the modifier of a name. -/
def addNamed (held : ModifierSet) (name : String) : Except Error ModifierSet :=
  match Modifier.named? name.toList with
  | some m => .ok (held.insert m)
  | none => .error (.invalidModifier name)

/-- Putting together from parts, with the errors as parameters. -/
theorem ofParts_eq (key : String) (modifiers : List String) :
    ofParts key modifiers =
      assemble (.invalidKey key) key.toList (modifiers.foldlM addNamed .empty) := by
  unfold ofParts assemble
  cases KeyCode.read? key.toList <;> rfl

/-- Reading from a text, with the errors as parameters. -/
theorem parse_eq (s : String) :
    let cs := trim s.toList
    let whole := String.ofList cs
    parse s = assemble (.invalidKey whole) (pieces cs).2
      ((pieces cs).1.foldlM (addModifier whole) .empty) := by
  unfold parse pieces assemble
  dsimp only
  cases cutKey (trim s.toList) with
  | none => rfl
  | some found =>
    dsimp only
    cases KeyCode.read? found.2 with
    | none => rfl
    | some code =>
      dsimp only
      cases (found.1.splitOn '+').foldlM (addModifier _) ModifierSet.empty <;> rfl

theorem assemble_eq_ok_iff {e : Error} {held : Except Error ModifierSet} :
    assemble e key held = .ok c ↔ KeyCode.read? key = some c.key ∧ held = .ok c.modifiers := by
  unfold assemble
  obtain ⟨code, set⟩ := c
  cases KeyCode.read? key with
  | none => simp
  | some code' => cases held <;> simp [Except.map]

/-! ## Modifiers -/

/-- Modifiers are inserted one by one, and a piece that names none puts an end to it. -/
theorem foldlM_eq_ok_iff {α : Type} {named : α → Option Modifier}
    {add : ModifierSet → α → Except Error ModifierSet}
    (add_eq_ok_iff : ∀ held a held', add held a = .ok held' ↔
      ∃ m, named a = some m ∧ held.insert m = held')
    (names : List α) (held held' : ModifierSet) :
    names.foldlM add held = .ok held' ↔
      ∃ ms : List Modifier, names.map named = ms.map some ∧
        ms.foldl ModifierSet.insert held = held' := by
  induction names generalizing held with
  | nil =>
    constructor
    · rintro ⟨⟩
      exact ⟨[], rfl, rfl⟩
    · rintro ⟨ms, same, rfl⟩
      rw [List.map_eq_nil_iff.mp same.symm]
      rfl
  | cons name names ih =>
    rw [List.foldlM_cons]
    constructor
    · intro added
      cases step : add held name with
      | error e =>
        rw [step] at added
        cases added
      | ok next =>
        rw [step] at added
        obtain ⟨m, known, rfl⟩ := (add_eq_ok_iff ..).mp step
        obtain ⟨ms, same, rfl⟩ := (ih _).mp added
        exact ⟨m :: ms, by simp [known, same], rfl⟩
    · rintro ⟨ms, same, rfl⟩
      cases ms with
      | nil => cases same
      | cons m ms =>
        obtain ⟨known, same⟩ := List.cons_eq_cons.mp same
        rw [(add_eq_ok_iff ..).mpr ⟨m, known, rfl⟩]
        exact (ih _).mpr ⟨ms, same, rfl⟩

theorem addNamed_eq_ok_iff (held : ModifierSet) (name : String) (held' : ModifierSet) :
    addNamed held name = .ok held' ↔
      ∃ m, Modifier.named? name.toList = some m ∧ held.insert m = held' := by
  unfold addNamed
  cases Modifier.named? name.toList <;> simp

theorem addModifier_eq_ok_iff (whole : String) (held : ModifierSet) (piece : List Char)
    (held' : ModifierSet) :
    addModifier whole held piece = .ok held' ↔
      ∃ m, Modifier.named? piece = some m ∧ held.insert m = held' := by
  unfold addModifier
  dsimp only
  rw [Modifier.named?_trim]
  split
  · rename_i blank
    rw [← Modifier.named?_trim, List.isEmpty_iff.mp blank, Modifier.named?_nil]
    simp
  · cases Modifier.named? piece with
    | some m => simp
    | none =>
      dsimp only
      split <;> simp

/-! ## What parts denote -/

/-- The parts stand for a combination. -/
def Denote (modifiers : List (List Char)) (key : List Char) (c : Chord) : Prop :=
  KeyCode.read? key = some c.key ∧
    ∃ ms : List Modifier, modifiers.map Modifier.named? = ms.map some ∧
      ModifierSet.ofList ms = c.modifiers

namespace Denote

/-- Blanks around the parts do not count. -/
theorem trim_iff {modifiers' : List (List Char)} {key' : List Char}
    (names : modifiers.map trim = modifiers'.map trim) (keys : trim key = trim key') :
    Denote modifiers key c ↔ Denote modifiers' key' c := by
  have trimmed : ∀ names : List (List Char),
      names.map Modifier.named? = (names.map trim).map Modifier.named? := by
    intro names
    simp only [List.map_map, Function.comp_def, Modifier.named?_trim]
  unfold Denote
  rw [← KeyCode.read?_trim key, ← KeyCode.read?_trim key', keys, trimmed modifiers, names,
    ← trimmed modifiers']

theorem plain (denote : Denote modifiers key c) : ∀ piece ∈ modifiers, '+' ∉ piece := by
  obtain ⟨-, ms, named, -⟩ := denote
  intro piece member
  have known : Modifier.named? piece ∈ ms.map some := named ▸ List.mem_map_of_mem member
  obtain ⟨m, -, known⟩ := List.mem_map.mp known
  exact Modifier.plus_notMem_of_named? known.symm

theorem solid (denote : Denote modifiers key c) : trim key ≠ [] :=
  KeyCode.trim_ne_nil_of_read? denote.1

end Denote

/-- Parts are accepted if they denote the combination. -/
theorem ofParts_eq_ok_iff {key : String} {modifiers : List String} :
    ofParts key modifiers = .ok c ↔ Denote (modifiers.map String.toList) key.toList c := by
  simp only [ofParts_eq, assemble_eq_ok_iff, foldlM_eq_ok_iff addNamed_eq_ok_iff, Denote,
    ModifierSet.ofList, List.map_map, Function.comp_def]

/-- A text is accepted if its pieces denote the combination. -/
theorem parse_eq_ok_iff {s : String} :
    parse s = .ok c ↔
      Denote (pieces (trim s.toList)).1 (pieces (trim s.toList)).2 c := by
  simp only [parse_eq, assemble_eq_ok_iff, foldlM_eq_ok_iff (addModifier_eq_ok_iff _), Denote,
    ModifierSet.ofList]

/-! ## Texts and parts -/

/-- Parts that stand for a combination may be joined to a text of it. -/
theorem parse_joined (denote : Denote modifiers key c) (last : '+' ∉ (trim key).dropLast)
    {s : String} (text : s.toList = joined modifiers key) : parse s = .ok c := by
  rw [parse_eq_ok_iff, text]
  obtain ⟨names, keys⟩ := pieces_joined denote.plain denote.solid last
  exact (Denote.trim_iff names keys).mpr denote

/-- A text that is read is made of parts that denote the combination. -/
theorem exists_parts {s : String} (read : parse s = .ok c) :
    ∃ modifiers key, s.toList = joined modifiers key ∧ '+' ∉ (trim key).dropLast ∧
      Denote modifiers key c := by
  obtain ⟨modifiers, key, text, last, names, keys⟩ := exists_joined s.toList
  exact ⟨modifiers, key, text, last, (Denote.trim_iff names keys).mpr (parse_eq_ok_iff.mp read)⟩

theorem toList_intercalate_plus (modifiers : List String) (key : String) :
    ("+".intercalate (modifiers ++ [key])).toList =
      joined (modifiers.map String.toList) key.toList := by
  rw [String.toList_intercalate, List.map_append]
  rfl

/-- A text is read as a combination exactly if it is names of modifiers and a key with plus signs
between them, where the key, without the blanks around it, has no plus sign but at its end, and the
combination is the one that is put together from these names and this key. -/
theorem parse_iff_ofParts (s : String) (c : Chord) :
    parse s = .ok c ↔ ∃ (modifiers : List String) (key : String),
      s = "+".intercalate (modifiers ++ [key]) ∧ '+' ∉ (trim key.toList).dropLast ∧
        ofParts key modifiers = .ok c := by
  constructor
  · intro read
    obtain ⟨modifiers, key, text, last, denote⟩ := exists_parts read
    have same : (modifiers.map String.ofList).map String.toList = modifiers := by
      simp [Function.comp_def]
    refine ⟨modifiers.map String.ofList, String.ofList key, ?_, ?_, ?_⟩
    · rw [← String.toList_inj, toList_intercalate_plus, same, String.toList_ofList]
      exact text
    · rw [String.toList_ofList]
      exact last
    · rw [ofParts_eq_ok_iff, same, String.toList_ofList]
      exact denote
  · rintro ⟨modifiers, key, rfl, last, read⟩
    exact parse_joined (ofParts_eq_ok_iff.mp read) last (toList_intercalate_plus modifiers key)

end Hotkeys.Chord
