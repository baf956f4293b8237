import Hotkeys.Proofs.Chord.RoundTrip
import Hotkeys.Proofs.Text.LetterCase
import Mathlib.Data.Set.List
import Mathlib.Logic.Relation

/-!
# What a combination denotes

A combination that is put together from parts depends on the code of the key and the set of the
modifiers alone. How the key and the modifiers are spelled, in which order the modifiers are named
and how often is all the same, and whatever differs in the key or in the set of modifiers gives
different combinations with different texts.
-/

namespace Hotkeys

open Text

/-! ## Spelling -/

/-- Another spelling of a word: some of its ASCII letters in another case, or blanks around it. -/
inductive Text.Respelled : String → String → Prop
  | letters {s s' : String} : lowered s.toList = lowered s'.toList → Respelled s s'
  | blanks {s s' : String} {lead trail : List Char} : Blank lead → Blank trail →
      s'.toList = lead ++ s.toList ++ trail → Respelled s s'

theorem Modifier.named?_of_mem {name : String} {m : Modifier} (listed : (name, m) ∈ names) :
    named? name.toList = some m := by
  have all : ∀ entry ∈ names, named? entry.1.toList = some entry.2 := by decide +kernel
  exact all (name, m) listed

/-- Letter case makes no difference to the name of a modifier. -/
theorem Modifier.named?_lowered (cs : List Char) : named? (lowered cs) = named? cs := by
  unfold named?
  rw [trim_lowered, lower_lowered]

namespace KeyCode

theorem marked_lowered_iff {cs hex : List Char} :
    Marked (lowered cs) hex ↔ ∃ hex', Marked cs hex' ∧ lowered hex' = hex := by
  have letter : ∀ c : Char, c.toLower = 'x' ∨ c.toLower = 'X' ↔ c = 'x' ∨ c = 'X' := by
    intro c
    obtain same | ⟨d, rfl⟩ := toLower_cases c
    · rw [same]
    · revert d
      decide
  unfold Marked
  rw [trim_lowered]
  rcases trim cs with _ | ⟨c, _ | ⟨d, rest⟩⟩
  · simp [lowered]
  · simp [lowered]
  · simp only [lowered, List.map_cons, List.cons.injEq, toLower_eq_iff (k := '0') (by decide)]
    constructor
    · intro marked
      have zero := marked.elim And.left And.left
      have mark := (letter d).mp (marked.imp (fun m => m.2.1) fun m => m.2.1)
      have same := marked.elim (fun m => m.2.2) fun m => m.2.2
      exact ⟨rest, mark.imp (fun x => ⟨zero, x, rfl⟩) fun x => ⟨zero, x, rfl⟩, same⟩
    · rintro ⟨hex', ⟨rfl, rfl, rfl⟩ | ⟨rfl, rfl, rfl⟩, rfl⟩
      · exact .inl ⟨rfl, rfl, rfl⟩
      · exact .inl ⟨rfl, rfl, rfl⟩

/-- Letter case makes no difference to a key. -/
theorem read?_lowered (cs : List Char) : read? (lowered cs) = read? cs := by
  by_cases word : ∀ hex, ¬ Marked cs hex
  · have word' : ∀ hex, ¬ Marked (lowered cs) hex := by
      intro hex marked
      obtain ⟨hex', marked, -⟩ := marked_lowered_iff.mp marked
      exact word hex' marked
    rw [read?_of_not_marked word, read?_of_not_marked word', named?, trim_lowered, lower_lowered,
      named?]
  · obtain ⟨hex, marked⟩ := not_forall_not.mp word
    have marked' := marked_lowered_iff.mpr ⟨hex, marked, rfl⟩
    rw [read?_of_marked marked, read?_of_marked marked', word32OfHex?_lowered]

end KeyCode

/-- What reads a trimmed text and does not tell the cases of a letter apart reads every spelling of
a word alike. -/
theorem Text.Respelled.same {α : Type} {read : List Char → α} {s s' : String}
    (respelled : Respelled s s') (trimmed : ∀ cs, read (trim cs) = read cs)
    (lowercase : ∀ cs, read (lowered cs) = read cs) : read s.toList = read s'.toList := by
  cases respelled with
  | letters same => rw [← lowercase s.toList, same, lowercase]
  | blanks before after around =>
    rw [around, ← trimmed (_ ++ _), trim_append_right after, trim_append_left before, trimmed]

namespace Chord

/-- Other parts for the same combination: the key or a modifier in another spelling, a modifier by
another of its names, the modifiers in another order, or one of them once more. -/
inductive Reworded : String × List String → String × List String → Prop
  | key {key key' : String} (names : List String) : Respelled key key' →
      Reworded (key, names) (key', names)
  | name {name name' : String} (key : String) (before after : List String) :
      Respelled name name' → Reworded (key, before ++ name :: after) (key, before ++ name' :: after)
  | synonym {name name' : String} {m : Modifier} (key : String) (before after : List String) :
      (name, m) ∈ Modifier.names → (name', m) ∈ Modifier.names →
      Reworded (key, before ++ name :: after) (key, before ++ name' :: after)
  | order {names names' : List String} (key : String) : names.Perm names' →
      Reworded (key, names) (key, names')
  | again {name : String} {names : List String} (key : String) : name ∈ names →
      Reworded (key, names) (key, name :: names)

/-- What each of the names stands for. -/
def meanings (names : List String) : List (Option Modifier) :=
  names.map fun name => Modifier.named? name.toList

/-- The modifiers that are named. -/
def denoted (names : List String) : Set Modifier := {m | some m ∈ meanings names}

/-- A set of modifiers is made from meanings if all of them are known and these are its members. -/
theorem exists_map_some_iff {l : List (Option Modifier)} {held : ModifierSet} :
    (∃ ms : List Modifier, l = ms.map some ∧ ModifierSet.ofList ms = held) ↔
      none ∉ l ∧ ∀ m, held.contains m = true ↔ some m ∈ l := by
  constructor
  · rintro ⟨ms, rfl, rfl⟩
    simp [ModifierSet.contains_ofList]
  · rintro ⟨total, members⟩
    have all : ∀ o ∈ l, o ∈ Set.range (some : Modifier → Option Modifier) := by
      intro o member
      obtain ⟨m, rfl⟩ := Option.ne_none_iff_exists'.mp (ne_of_mem_of_not_mem member total)
      exact ⟨m, rfl⟩
    obtain ⟨ms, rfl⟩ : l ∈ Set.range (List.map some) := by rwa [Set.range_list_map]
    refine ⟨ms, rfl, ModifierSet.ext_contains fun m => ?_⟩
    rw [Bool.eq_iff_iff, members, ModifierSet.contains_ofList]
    simp

/-- Parts are put together exactly if there is such a key and every name is that of a modifier, and
then to the key and the modifiers that they name. -/
theorem ofParts_eq_ok_iff_meanings {key : String} {names : List String} {c : Chord} :
    ofParts key names = .ok c ↔
      KeyCode.read? key.toList = some c.key ∧ none ∉ meanings names ∧
        ∀ m, c.modifiers.contains m = true ↔ some m ∈ meanings names := by
  rw [ofParts_eq_ok_iff, Denote, ← exists_map_some_iff, List.map_map]
  rfl

variable {key key' : String} {names names' : List String} {c c' : Chord}

/-- Parts whose keys are read alike and whose names have the same meanings are put together to the
same combination, or are both refused. -/
theorem ofParts_congr (keys : KeyCode.read? key.toList = KeyCode.read? key'.toList)
    (same : ∀ o, o ∈ meanings names ↔ o ∈ meanings names') :
    ofParts key names = .ok c ↔ ofParts key' names' = .ok c := by
  simp only [ofParts_eq_ok_iff_meanings, keys, same]

theorem mem_meanings_replace {name name' : String} {before after : List String}
    (same : Modifier.named? name.toList = Modifier.named? name'.toList) (o : Option Modifier) :
    o ∈ meanings (before ++ name :: after) ↔ o ∈ meanings (before ++ name' :: after) := by
  simp [meanings, same]

theorem mem_meanings_again {name : String} (member : name ∈ names) (o : Option Modifier) :
    o ∈ meanings names ↔ o ∈ meanings (name :: names) := by
  have known : Modifier.named? name.toList ∈ meanings names := List.mem_map_of_mem member
  constructor
  · exact List.mem_cons_of_mem _
  · intro either
    obtain rfl | there := List.mem_cons.mp either
    · exact known
    · exact there

/-- One change of wording makes no difference to what is read. -/
theorem Reworded.ofParts_iff {p q : String × List String} (reworded : Reworded p q) :
    ofParts p.1 p.2 = .ok c ↔ ofParts q.1 q.2 = .ok c := by
  cases reworded with
  | key names respelled =>
    have same := respelled.same KeyCode.read?_trim KeyCode.read?_lowered
    exact ofParts_congr same fun o => Iff.rfl
  | name key before after respelled =>
    have same := respelled.same Modifier.named?_trim Modifier.named?_lowered
    exact ofParts_congr rfl (mem_meanings_replace same)
  | synonym key before after listed listed' =>
    have same := (Modifier.named?_of_mem listed).trans (Modifier.named?_of_mem listed').symm
    exact ofParts_congr rfl (mem_meanings_replace same)
  | order key perm => exact ofParts_congr rfl fun o => (perm.map _).mem_iff
  | again key member => exact ofParts_congr rfl (mem_meanings_again member)

/-- Two combinations are the same exactly if their keys and the sets of their modifiers are. -/
theorem eq_iff_denoted (read : ofParts key names = .ok c) (read' : ofParts key' names' = .ok c') :
    c = c' ↔ KeyCode.read? key.toList = KeyCode.read? key'.toList ∧
      denoted names = denoted names' := by
  obtain ⟨code, -, members⟩ := ofParts_eq_ok_iff_meanings.mp read
  obtain ⟨code', -, members'⟩ := ofParts_eq_ok_iff_meanings.mp read'
  rw [code, code', Option.some_inj]
  constructor
  · rintro rfl
    refine ⟨rfl, Set.ext fun m => ?_⟩
    exact (members m).symm.trans (members' m)
  · rintro ⟨keys, sets⟩
    have held : c.modifiers = c'.modifiers := by
      refine ModifierSet.ext_contains fun m => Bool.eq_iff_iff.mpr ?_
      rw [members, members']
      exact Set.ext_iff.mp sets m
    cases c
    cases c'
    cases keys
    cases held
    rfl

/-- However the parts of a combination are reworded, they are put together to the same combination
or are refused as before. And whenever two lots of parts are put together, the combinations are the
same exactly if the keys have one code and the names stand for one set of modifiers; otherwise their
texts differ as well. -/
theorem ofParts_denotation :
    (∀ p q : String × List String, Relation.EqvGen Reworded p q →
      ∀ c, ofParts p.1 p.2 = .ok c ↔ ofParts q.1 q.2 = .ok c) ∧
    ∀ key names key' names' c c', ofParts key names = .ok c → ofParts key' names' = .ok c' →
      (c = c' ↔ KeyCode.read? key.toList = KeyCode.read? key'.toList ∧
        denoted names = denoted names') ∧ (c.text = c'.text ↔ c = c') := by
  constructor
  · intro p q related c
    induction related with
    | rel p q reworded => exact reworded.ofParts_iff
    | refl p => exact Iff.rfl
    | symm p q _ ih => exact ih.symm
    | trans p q r _ _ first second => exact first.trans second
  · intro key names key' names' c c' read read'
    exact ⟨eq_iff_denoted read read', text_injective.eq_iff⟩

/-- The same combination in two spellings. -/
example : ofParts " 0X7f" ["SHIFT", "alt", " Shift"] = ofParts "0x7F\t" ["opt", "shift"] := by
  decide +kernel

end Chord

end Hotkeys
