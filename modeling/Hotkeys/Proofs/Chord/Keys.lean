import Hotkeys.Proofs.Chord.Names
import Hotkeys.Proofs.Text.Word
import Hotkeys.Table

/-!
# What is read as a key

A text is read as a key by its code in hexadecimal if it begins with the mark of a code, and by its
name or another word for the name if it does not. The two tables of names do not get in each
other's way: no name stands for two codes, and no name is also another word for one.
-/

namespace Hotkeys.KeyCode

open Text

variable {word : String} {code : KeyCode}

/-! ## The tables -/

theorem nodup_names : (names.map (·.1)).Nodup := by decide +kernel

theorem nodup_aliases : (aliases.map (·.1)).Nodup := by decide +kernel

theorem lookup_names_iff : names.lookup word = some code ↔ (word, code) ∈ names :=
  Table.get?_eq_some_iff (t := ⟨names, nodup_names⟩)

theorem lookup_aliases_iff {name : String} :
    aliases.lookup word = some name ↔ (word, name) ∈ aliases :=
  Table.get?_eq_some_iff (t := ⟨aliases, nodup_aliases⟩)

/-- A name is no other word for a name. -/
theorem lookup_aliases_of_name (listed : (word, code) ∈ names) : aliases.lookup word = none := by
  have all : ∀ entry ∈ names, aliases.lookup entry.1 = none := by decide +kernel
  exact all _ listed

/-- A word has a code exactly if it is a name with this code or another word for one. -/
theorem ofWord?_eq_some_iff :
    ofWord? word = some code ↔
      ∃ name, (name, code) ∈ names ∧ (word = name ∨ (word, name) ∈ aliases) := by
  unfold ofWord?
  rw [lookup_names_iff]
  constructor
  · intro listed
    cases other : aliases.lookup word with
    | none =>
      rw [other] at listed
      exact ⟨word, listed, .inl rfl⟩
    | some name =>
      rw [other] at listed
      exact ⟨name, listed, .inr (lookup_aliases_iff.mp other)⟩
  · rintro ⟨name, listed, rfl | other⟩
    · rw [lookup_aliases_of_name listed]
      exact listed
    · rw [lookup_aliases_iff.mpr other]
      exact listed

/-- Only words of ASCII have a code. -/
theorem ascii_of_ofWord? (known : ofWord? word = some code) : ∀ c ∈ word.toList, c.toNat < 128 := by
  have plain : ∀ entry ∈ names, entry.1.toList.all (·.toNat < 128) = true := by decide +kernel
  have plain' : ∀ entry ∈ aliases, entry.1.toList.all (·.toNat < 128) = true := by decide +kernel
  obtain ⟨name, listed, rfl | other⟩ := ofWord?_eq_some_iff.mp known
  · simpa using plain _ listed
  · simpa using plain' _ other

/-- A word with a character beyond ASCII names no key. -/
theorem ofWord?_eq_none_of_beyond {cs : List Char} (beyond : ∃ c ∈ cs, 128 ≤ c.toNat) :
    ofWord? (String.ofList cs) = none := by
  obtain ⟨c, member, large⟩ := beyond
  cases known : ofWord? (String.ofList cs) with
  | none => rfl
  | some code =>
    have small := ascii_of_ofWord? known c (by rwa [String.toList_ofList])
    omega

/-- How characters beyond ASCII are put into lower case makes no difference to what is found. -/
theorem ofWord?_flatten {cs : List Char} {parts : List (List Char)}
    (lowercase : List.Forall₂ LowerCaseOf cs parts) :
    ofWord? (String.ofList parts.flatten) = ofWord? (String.ofList (lower cs)) := by
  obtain same | ⟨beyond, beyond'⟩ := flatten_eq_or_beyond lowercase
  · rw [same]
  · rw [ofWord?_eq_none_of_beyond beyond, ofWord?_eq_none_of_beyond beyond']

/-! ## Names and codes -/

/-- A text is read as a key with a code exactly if it has, behind the mark of a code and one plus
sign or none, digits of a number that is this code, or if it has no such mark and is, in lower
case, a name of the key or another word for one. Behind a mark nothing is read exactly if there is
no digit, or another character, or the number does not fit in 32 bits: the digits are as good as
taken in one by one, up to the first that does not fit. Zeros in front of them do not count, and
how characters beyond ASCII are put into lower case makes no difference. -/
theorem read_grammar :
    (∀ (token : String) (code : KeyCode),
      let word := String.ofList (lower (trim token.toList))
      read? token.toList = some code ↔
        (∃ hex, Marked token.toList hex ∧ unsigned hex ≠ [] ∧
          HexSpells (unsigned hex) code.toNat) ∨
        (∀ hex, ¬ Marked token.toList hex) ∧
          ∃ name, (name, code) ∈ names ∧ (word = name ∨ (word, name) ∈ aliases)) ∧
    (∀ (token : String) (hex : List Char), Marked token.toList hex →
      (read? token.toList = none ↔
        unsigned hex = [] ∨ (∃ c ∈ unsigned hex, ∀ d, ¬ IsDigitOf c d) ∨
          ∃ n, UInt32.size ≤ n ∧ HexSpells (unsigned hex) n) ∧
      read? token.toList =
        if unsigned hex = [] then none else (unsigned hex).foldlM takeDigit 0) ∧
    (∀ (token token' : String) (hex hex' : List Char) (zeros : Nat),
      Marked token.toList hex → Marked token'.toList hex' → unsigned hex' ≠ [] →
      unsigned hex = List.replicate zeros '0' ++ unsigned hex' →
      read? token.toList = read? token'.toList) ∧
    ∀ (token : String) (parts : List (List Char)),
      List.Forall₂ LowerCaseOf (trim token.toList) parts →
      ofWord? (String.ofList parts.flatten) = named? token.toList := by
  refine ⟨fun token code => ?_, fun token hex marked => ?_, ?_, fun token parts => ofWord?_flatten⟩
  · by_cases plain : ∀ hex, ¬ Marked token.toList hex
    · rw [read?_of_not_marked plain, named?, ofWord?_eq_some_iff]
      simp [plain]
    · obtain ⟨hex, marked⟩ := not_forall_not.mp plain
      rw [read?_of_marked marked, word32OfHex?_eq_some_iff]
      constructor
      · intro spelled
        exact .inl ⟨hex, marked, spelled⟩
      · rintro (⟨hex', marked', spelled⟩ | ⟨plain', -⟩)
        · exact marked.unique marked' ▸ spelled
        · exact absurd plain' plain
  · rw [read?_of_marked marked, foldlM_takeDigit, ← word32OfHex?_eq]
    exact ⟨word32OfHex?_eq_none_iff, rfl⟩
  · intro token token' hex hex' zeros marked marked' digits same
    rw [read?_of_marked marked, read?_of_marked marked', word32OfHex?_zeros digits same]

/-- A number that is too large by one, zeros behind a plus sign, and a letter whose lower case is
two characters. -/
theorem read_grammar_instances :
    (Marked " 0X+0100000000".toList "+0100000000".toList ∧
      HexSpells "0100000000".toList UInt32.size ∧ read? " 0X+0100000000".toList = none) ∧
    (Marked " 0X+000fF".toList "+000fF".toList ∧ Marked "0xfF".toList "fF".toList ∧
      read? " 0X+000fF".toList = read? "0xfF".toList) ∧
    List.Forall₂ LowerCaseOf (trim "\u0130".toList) ["i\u0307".toList] ∧
      ofWord? "i\u0307" = named? "\u0130".toList := by
  have large : Marked " 0X+0100000000".toList "+0100000000".toList := .inr (by decide +kernel)
  have spells : HexSpells "0100000000".toList UInt32.size :=
    ⟨[0, 0, 0, 0, 0, 0, 0, 0, 1, 0], by decide +kernel, by decide⟩
  have zeros : Marked " 0X+000fF".toList "+000fF".toList := .inr (by decide +kernel)
  have bare : Marked "0xfF".toList "fF".toList := .inl (by decide +kernel)
  have trimmed : trim "\u0130".toList = ['\u0130'] := by decide +kernel
  have dotted : List.Forall₂ LowerCaseOf (trim "\u0130".toList) ["i\u0307".toList] := by
    rw [trimmed]
    exact .cons (.inr ⟨by decide, '\u0307', by decide, by decide⟩) .nil
  obtain ⟨-, refusal, leading, lowercase⟩ := read_grammar
  refine ⟨⟨large, spells, ?_⟩, ⟨zeros, bare, ?_⟩, dotted, ?_⟩
  · exact (refusal _ _ large).1.mpr (.inr (.inr ⟨UInt32.size, Nat.le_refl _, spells⟩))
  · exact leading _ _ _ _ 3 zeros bare (by decide) rfl
  · exact lowercase _ _ dotted

/-- The largest code of all in small letters, behind a sign and zeros. -/
example : read? "\t0x+00ffffffff ".toList = some 0xFFFFFFFF := by decide +kernel

end Hotkeys.KeyCode
