import Hotkeys.Proofs.Chord.Parts
import Hotkeys.Proofs.Chord.RoundTrip
import Hotkeys.Proofs.Script.Allocation
import Hotkeys.Script.Interpreter

/-!
# Ways for scripts to name a combination

A script names the modifiers of a combination in a text or in a table. Whichever it takes, the
object has the combination that the names denote.
-/

namespace Hotkeys.Script

open Text (trim)

variable {φ : Type}

/-! ## The names that arguments hold -/

/-- A text names modifiers by its pieces between plus signs. -/
theorem modifierNames_text (items : Nat → List (Value φ)) (s : String) :
    modifierNames items (.string s) =
      .ok ((Chord.solidPieces s.toList).map String.ofList) := by
  have blank : ∀ piece : List Char, (!piece.isEmpty) = decide (piece ≠ []) := by
    intro piece
    cases piece <;> rfl
  simp only [modifierNames, splitModifiers, Chord.solidPieces, blank]

/-- A table names modifiers by its items. -/
theorem modifierNames_table {items : Nat → List (Value φ)} {n : Nat} {names : List String}
    (held : items n = names.map .string) : modifierNames items (.table n) = .ok names := by
  have whole : Value.sequence (items n) = names.map .string := by
    rw [held]
    refine List.takeWhile_eq_self_iff.mpr fun v member => ?_
    obtain ⟨name, -, rfl⟩ := List.mem_map.mp member
    rfl
  have texts : (names.map Value.string).mapM (Value.toText none : Value φ → _) = .ok names := by
    rw [List.mapM_map]
    exact (List.mapM_pure (f := id)).trans (congrArg pure (List.map_id names))
  simp only [modifierNames, whole, texts]

/-! ## Tables of names -/

namespace Fields

/-- A value for the key behind a row that is all there is comes to stand at its end. -/
theorem set_next (row : Array (Value (Callable φ))) {v : Value (Callable φ)}
    (given : v.isNil = false) :
    ({ row } : Fields (Callable φ)).set Interpreter.same (.integer (row.size + 1)) v =
      { row := row.push v } := by
  have key : keyOf (.integer (row.size + 1) : Value (Callable φ)) = .integer (row.size + 1) := rfl
  have behind : ({ row } : Fields (Callable φ)).index? (.integer (row.size + 1)) = none := by
    simp only [index?]
    rw [if_neg (by omega)]
  have here : Interpreter.same (.integer (row.size + 1) : Value (Callable φ))
      (.integer (row.size + 1)) = true := by
    simp [Interpreter.same, Value.equal]
  simp [set, key, behind, given, here, absorb]

end Fields

namespace Interpreter

variable {i : Interpreter φ} {r : Runtime (Callable φ)} {base : HotkeyId}

/-- A table that is made from some values has them as its sequence. -/
theorem items_addSequence (i : Interpreter φ) {vs : List (Value (Callable φ))}
    (given : ∀ v ∈ vs, v.isNil = false) :
    ∃ j, i.addSequence vs = (.table i.tables.size, j) ∧ j.runtime = i.runtime ∧
      (j.fields i.tables.size).items = vs := by
  have filled : (vs.mapIdx fun k v => (k, v)).foldl
      (fun f e => f.set same (.integer ((e.1 + 1 : Nat) : Int)) e.2) ({} : Fields (Callable φ)) =
        { row := vs.toArray } := by
    -- values come to stand at the end of the row, so the induction is on the last one
    induction vs using List.reverseRecOn with
    | nil => rfl
    | append_singleton vs v ih =>
      have before := ih fun w member => given w (List.mem_append_left _ member)
      have next := Fields.set_next vs.toArray
        (given v (List.mem_append_right _ List.mem_cons_self))
      rw [List.mapIdx_concat, List.foldl_append, before]
      simpa using next
  refine ⟨{ i with tables := i.tables.push { row := vs.toArray } }, ?_, rfl, ?_⟩
  · rw [addSequence, filled]
    rfl
  · simp [fields, Fields.items]

/-! ## What a call makes -/

/-- A call makes an object for the combination. -/
def Makes (i : Interpreter φ) (env : Conditions) (args : List (Value (Callable φ))) (c : Chord) :
    Prop :=
  ∃ n j, i.callFunction env .new args = (.ok (.hotkey n), j) ∧
    (j.runtime.object? n).map (·.chord) = some c

theorem createFrom_of_names {items : Nat → List (Value (Callable φ))} {names : List String}
    {v : Value (Callable φ)} (read : modifierNames items v = .ok names) (key : String)
    (f : Callable φ) :
    r.createFrom items [.string key, v, .function f] =
      match Chord.ofParts key names with
      | .error e => .error (.hotkey e)
      | .ok c => r.create c f := by
  have named : requested items [.string key, v, .function f] =
      modifierNames items v >>= fun names =>
        match Chord.ofParts key names with
        | .error e => throw (.hotkey e)
        | .ok c => return (c, f) := rfl
  rw [Runtime.createFrom_eq, named, read]
  simp only [bind, Except.bind]
  cases Chord.ofParts key names <;> rfl

/-- An object is made if the names denote a combination and there is an identifier for it. -/
theorem makes_iff (orderly : i.runtime.Orderly base) {names : List String}
    {v : Value (Callable φ)}
    (read : modifierNames (fun n => (i.fields n).items) v = .ok names) (env : Conditions)
    (key : String) (f : Callable φ) (c : Chord) :
    i.Makes env [.string key, v, .function f] c ↔
      (∃ id, i.runtime.Available id) ∧ Chord.ofParts key names = .ok c := by
  simp only [Makes, callFunction, Runtime.call, createFrom_of_names read]
  cases denoted : Chord.ofParts key names with
  | error e => simp
  | ok c' =>
    simp only [Runtime.create_eq]
    cases found : freeId i.runtime.isTaken i.runtime.idBase with
    | none => simp [Runtime.freeId_eq_none_iff_available.mp found]
    | some id =>
      have available : ∃ id, i.runtime.Available id :=
        ⟨id, (Runtime.freeId_eq_some_iff_available.mp found).1⟩
      rw [orderly.idBase] at found
      have new := orderly.object?_insert found c' f
      simp [available, new]

/-- The modifiers of a new object are named in a text or in a table of the names in this text.
Either way the object has the combination that the names denote, and the call succeeds if there is
an identifier for it. The text with the key behind it is read as a combination exactly if the names
and the key denote one and no piece of the text is blank, so an object can have whatever is read
from a text. And from the text that an object gives as its key its combination is read. -/
theorem naming_run (backend : Backend) (strict : Bool) (base : HotkeyId)
    (moves : List (Runtime.Move (Callable φ))) {i : Interpreter φ}
    (reached : i.runtime = (Runtime.start backend strict base).run moves) (key : String)
    (solid : trim key.toList ≠ []) (last : '+' ∉ (trim key.toList).dropLast) (s : String)
    (f : Callable φ) (env : Conditions) :
    let names := (((s.toList.splitOn '+').map trim).filter (· ≠ [])).map String.ofList
    let (table, j) := i.addSequence (names.map .string)
    let named := [.string key, .string s, .function f]
    (∀ c, i.Makes env named c ↔ j.Makes env [.string key, table, .function f] c) ∧
    (∀ c, i.Makes env named c ↔
      (∃ id, i.runtime.Available id) ∧ Chord.ofParts key names = .ok c) ∧
    (∀ c, Chord.parse (s ++ "+" ++ key) = .ok c ↔
      Chord.ofParts key names = .ok c ∧ ∀ piece ∈ s.toList.splitOn '+', trim piece ≠ []) ∧
    (∀ c, Chord.parse (s ++ "+" ++ key) = .ok c → (∃ id, i.runtime.Available id) →
      i.Makes env named c) ∧
    ∀ (i : Interpreter φ) n o, i.runtime.object? n = some o → ∃ text,
      (i.callMethod env (.hotkey n) .key).1 = .ok [.string text] ∧
        Chord.parse text = .ok o.chord := by
  intro names
  have orderly : i.runtime.Orderly base := by
    rw [reached]
    exact Runtime.start_orderly backend strict base moves
  have given : ∀ v ∈ names.map (Value.string : String → Value (Callable φ)), v.isNil = false := by
    simp [Value.isNil]
  obtain ⟨j, made, same, held⟩ := i.items_addSequence given
  have byText := makes_iff orderly (modifierNames_text _ s) env key f
  have byTable := makes_iff (same ▸ orderly : j.runtime.Orderly base)
    (modifierNames_table held) env key f
  have read : ∀ c, Chord.parse (s ++ "+" ++ key) = .ok c ↔
      Chord.ofParts key names = .ok c ∧ ∀ piece ∈ s.toList.splitOn '+', trim piece ≠ [] := by
    intro c
    have text : (s ++ "+" ++ key).toList = s.toList ++ '+' :: key.toList := by simp
    rw [Chord.parse_front_iff solid last text, Chord.denote_splitOn_iff, Chord.ofParts_eq_ok_iff]
    simp [names, Chord.solidPieces, Function.comp_def]
  rw [made]
  refine ⟨fun c => ?_, byText, read, ?_, ?_⟩
  · rw [byText, byTable, same]
    rfl
  · intro c parsed available
    exact (byText c).mpr ⟨available, ((read c).mp parsed).1⟩
  · intro i n o found
    exact ⟨o.chord.text, by simp [callMethod, Runtime.callMethod, found], Chord.parse_text o.chord⟩

/-- The key ends in a plus sign, and there are blanks around the names. -/
theorem naming_run_pad :
    let i : Interpreter Unit := .new (.start (.simulated {}) true 1000)
    i.Makes {} [.string "pad+", .string " ctrl + shift ", .function (.host ())]
      { key := 0x45, modifiers := { control := true, shift := true } } := by
  intro i
  have reached : i.runtime = (Runtime.start (.simulated {}) true 1000).run [] := rfl
  obtain ⟨-, -, -, joined, -⟩ := naming_run _ _ _ _ reached "pad+" (by decide +kernel)
    (by decide +kernel) " ctrl + shift " (.host ()) {}
  have idle : i.runtime.ids = [] := List.mergeSort_nil
  exact joined _ (by decide +kernel) ⟨1000, UInt32.le_refl _, List.not_mem_nil, by simp [idle]⟩

end Interpreter

end Hotkeys.Script
