import Hotkeys.Chord.Basic
import Hotkeys.Proofs.Text.Hexadecimal
import Hotkeys.Proofs.Text.Trim

/-!
# Names of keys and modifiers

Blanks around a name do not count. No modifier has a plus sign in a name, and no key has one
anywhere but at the end of the text that it is written as, so the names of a combination can be
told apart.
-/

namespace Hotkeys

open Text

namespace Modifier

theorem named?_trim (cs : List Char) : named? (trim cs) = named? cs := by
  unfold named?
  rw [trim_trim]

theorem named?_nil : named? [] = none := by decide +kernel

/-- Each modifier is found by its canonical name. -/
theorem named?_name (m : Modifier) : named? m.name.toList = some m := by
  cases m <;> decide +kernel

/-- A name of a modifier is one piece of a combination. -/
theorem plus_notMem_of_named? {cs : List Char} {m : Modifier} (named : named? cs = some m) :
    '+' ∉ cs := by
  intro plus
  have survives : '+' ∈ lower (trim cs) :=
    List.mem_map.mpr ⟨'+', (mem_trim_iff (by decide)).mpr plus, by decide⟩
  have plain : ∀ entry ∈ names, '+' ∉ entry.1.toList := by decide
  obtain ⟨before, after, split, -⟩ := List.lookup_eq_some_iff.mp named
  have entry : (String.ofList (lower (trim cs)), m) ∈ names := by simp [split]
  have absent := plain _ entry
  rw [String.toList_ofList] at absent
  exact absent survives

end Modifier

namespace KeyCode

theorem read?_trim (cs : List Char) : read? (trim cs) = read? cs := by
  unfold read?
  rw [trim_trim]

theorem read?_nil : read? [] = none := by decide +kernel

/-- A text whose rest, behind the mark of a code, is in hexadecimal. -/
def Marked (cs hex : List Char) : Prop :=
  trim cs = '0' :: 'x' :: hex ∨ trim cs = '0' :: 'X' :: hex

/-- The digits behind the mark are decided by the text. -/
theorem Marked.unique {cs hex hex' : List Char} (marked : Marked cs hex)
    (marked' : Marked cs hex') : hex = hex' := by
  unfold Marked at marked marked'
  cases marked <;> simp_all

/-- Behind the mark of a code, only hexadecimal digits count. -/
theorem read?_of_marked {cs hex : List Char} (marked : Marked cs hex) :
    read? cs = word32OfHex? hex := by
  unfold read?
  obtain same | same := marked <;> simp only [same]

/-- Without the mark of a code, a key is read by its name. -/
theorem read?_of_not_marked {cs : List Char} (word : ∀ hex, ¬ Marked cs hex) :
    read? cs = named? cs := by
  unfold read?
  split
  · rename_i hex same
    exact absurd (.inl same) (word hex)
  · rename_i hex same
    exact absurd (.inr same) (word hex)
  · unfold named?
    rw [trim_trim]

/-- A key is not blank. -/
theorem trim_ne_nil_of_read? {cs : List Char} {code : KeyCode} (read : read? cs = some code) :
    trim cs ≠ [] := by
  intro nothing
  rw [← read?_trim, nothing, read?_nil] at read
  cases read

end KeyCode

namespace Chord

open KeyCode

/-- Every code is read back from its hexadecimal text. -/
theorem read?_hexadecimal (key : KeyCode) :
    read? ('0' :: 'x' :: hexPadded key.toNat) = some key := by
  have solid : ∀ c ∈ '0' :: 'x' :: hexPadded key.toNat, isBlank c = false := by
    simp only [List.forall_mem_cons]
    exact ⟨by decide, by decide, fun c member => (isHexDigit_of_mem_hexPadded c member).isBlank⟩
  rw [read?_of_marked (.inl (trim_eq_self_of_solid solid))]
  exact word32OfHex?_hexPadded key

/-- A key is written as an entry of the table of names, or in hexadecimal. -/
theorem keyText_cases (key : KeyCode) :
    (∃ entry ∈ names, keyText key = entry.1.toList ∧ entry.2 = key) ∨
      keyText key = '0' :: 'x' :: hexPadded key.toNat := by
  unfold keyText name?
  cases found : names.find? fun entry => entry.2 == key with
  | none => exact .inr rfl
  | some entry =>
    refine .inl ⟨entry, List.mem_of_find?_eq_some found, rfl, ?_⟩
    simpa using List.find?_some found

/-- The text of a key is read as that key. -/
theorem read?_keyText (key : KeyCode) : read? (keyText key) = some key := by
  have named : ∀ entry ∈ names, read? entry.1.toList = some entry.2 := by decide +kernel
  obtain ⟨entry, listed, text, rfl⟩ | text := keyText_cases key
  · rw [text]
    exact named entry listed
  · rw [text]
    exact read?_hexadecimal key

/-- The text of a key has a plus sign at its end only. -/
theorem plus_notMem_dropLast_keyText (key : KeyCode) : '+' ∉ (trim (keyText key)).dropLast := by
  have named : ∀ entry ∈ names, '+' ∉ (trim entry.1.toList).dropLast := by decide +kernel
  obtain ⟨entry, listed, text, -⟩ | text := keyText_cases key
  · rw [text]
    exact named entry listed
  · intro plus
    have member : '+' ∈ keyText key :=
      (mem_trim_iff (by decide)).mp ((List.dropLast_sublist _).subset plus)
    rw [text] at member
    simp only [List.mem_cons] at member
    obtain zero | x | digit := member
    · exact absurd zero (by decide)
    · exact absurd x (by decide)
    · exact (isHexDigit_of_mem_hexPadded '+' digit).ne_plus rfl

end Chord

end Hotkeys
