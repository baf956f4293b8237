import Hotkeys.Json.Basic
import Hotkeys.Json.Reader

/-!
# Strings in quotes

Between quotes a character may be written as itself or as an escape, and most characters have
several spellings. Whichever of them a text uses, the characters are read back one by one; the
writer uses one of them.
-/

namespace Hotkeys.Json

/-- The text between quotes stands for the characters, each of them written as itself or as one of
its escapes. -/
inductive SpellsChars : List Char → List Char → Prop
  | nil : SpellsChars [] []
  | plain {c : Char} {cs text : List Char} : c ≠ '"' → c ≠ '\\' → 0x20 ≤ c.toNat →
      SpellsChars cs text → SpellsChars (c :: cs) (c :: text)
  | letter {c l : Char} {cs text : List Char} : simpleEscape? l = some c →
      SpellsChars cs text → SpellsChars (c :: cs) ('\\' :: l :: text)
  | code {n : Nat} {a b c d : Char} {cs text : List Char} : hexFour? a b c d = some n →
      isLowSurrogate n = false → isHighSurrogate n = false → SpellsChars cs text →
      SpellsChars (Char.ofNat n :: cs) ('\\' :: 'u' :: a :: b :: c :: d :: text)
  | pair {n m : Nat} {a b c d e f g h : Char} {cs text : List Char} :
      hexFour? a b c d = some n → isHighSurrogate n = true →
      hexFour? e f g h = some m → isLowSurrogate m = true → SpellsChars cs text →
      SpellsChars (Char.ofNat (0x10000 + 0x400 * (n - 0xD800) + (m - 0xDC00)) :: cs)
        ('\\' :: 'u' :: a :: b :: c :: d :: '\\' :: 'u' :: e :: f :: g :: h :: text)

theorem isLowSurrogate_of_isHighSurrogate {n : Nat} (high : isHighSurrogate n = true) :
    isLowSurrogate n = false := by
  simp only [isHighSurrogate, Bool.and_eq_true, decide_eq_true_eq] at high
  simp only [isLowSurrogate, Bool.and_eq_false_iff, decide_eq_false_iff_not]
  omega

theorem letter_ne_u {c l : Char} (known : simpleEscape? l = some c) : l ≠ 'u' := by
  rintro rfl
  cases known

/-- The characters are read from every text that stands for them, up to the closing quote. -/
theorem SpellsChars.readChars {cs text : List Char} (spelt : SpellsChars cs text)
    (rest : List Char) : readChars (text ++ '"' :: rest) = .ok (cs, rest) := by
  induction spelt with
  | nil => simp [Json.readChars]
  | plain _ slash large _ ih =>
    have visible := Nat.not_lt.mpr large
    simp [Json.readChars, slash, visible, ih, consTo, Except.map]
  | letter known _ ih =>
    simp [Json.readChars, letter_ne_u known, known, ih, consTo, Except.map]
  | code read low high _ ih => simp [Json.readChars, read, low, high, ih, consTo, Except.map]
  | pair read high read' low _ ih =>
    have other := isLowSurrogate_of_isHighSurrogate high
    simp [Json.readChars, read, other, high, read', low, ih, consTo, Except.map]

/-- A string is read from every text that spells it. -/
theorem SpellsChars.readString {s : String} {text : List Char} (spelt : SpellsChars s.toList text)
    (rest : List Char) : readString (text ++ '"' :: rest) = .ok (s, rest) := by
  simp [Json.readString, spelt.readChars, Except.map]

/-! ## The spelling that is written -/

/-- The characters whose escape is one letter. -/
def lettered : List Char := ['"', '\\', '\x08', '\x0c', '\n', '\r', '\t']

theorem escapeChar_of_mem {c : Char} (member : c ∈ lettered) :
    ∃ letter, simpleEscape? letter = some c ∧ escapeChar c = ['\\', letter] := by
  simp only [lettered, List.mem_cons, List.not_mem_nil, or_false] at member
  obtain rfl | rfl | rfl | rfl | rfl | rfl | rfl := member <;>
    exact ⟨_, by decide, rfl⟩

theorem escapeChar_of_notMem {c : Char} (other : c ∉ lettered) :
    escapeChar c = if c.toNat < 0x20 then
      ['\\', 'u', '0', '0', Text.digitChar (c.toNat / 16), (Text.digitChar (c.toNat % 16)).toLower]
      else [c] := by
  simp only [lettered, List.mem_cons, List.not_mem_nil, or_false, not_or] at other
  simp only [escapeChar, other, if_false]

/-- The digits of a control character are those of its escape. -/
theorem hexFour?_control {n : Nat} (small : n < 0x20) :
    hexFour? '0' '0' (Text.digitChar (n / 16)) (Text.digitChar (n % 16)).toLower = some n := by
  have all : ∀ n : Fin 0x20, hexFour? '0' '0' (Text.digitChar (n.val / 16))
      (Text.digitChar (n.val % 16)).toLower = some n.val := by decide
  exact all ⟨n, small⟩

theorem SpellsChars.escapeChar {cs text : List Char} (spelt : SpellsChars cs text) (c : Char) :
    SpellsChars (c :: cs) (escapeChar c ++ text) := by
  by_cases member : c ∈ lettered
  · obtain ⟨letter, known, written⟩ := escapeChar_of_mem member
    rw [written]
    exact .letter known spelt
  · rw [escapeChar_of_notMem member]
    by_cases small : c.toNat < 0x20
    · have low : isLowSurrogate c.toNat = false := by
        simp only [isLowSurrogate, Bool.and_eq_false_iff, decide_eq_false_iff_not]
        omega
      have high : isHighSurrogate c.toNat = false := by
        simp only [isHighSurrogate, Bool.and_eq_false_iff, decide_eq_false_iff_not]
        omega
      have control := SpellsChars.code (hexFour?_control small) low high spelt
      rw [Char.ofNat_toNat] at control
      rwa [if_pos small]
    · simp only [lettered, List.mem_cons, not_or] at member
      rw [if_neg small]
      exact .plain member.1 member.2.1 (Nat.not_lt.mp small) spelt

/-- A string is spelled by its characters with those escaped that have to be. -/
theorem spellsChars_flatMap : ∀ cs : List Char, SpellsChars cs (cs.flatMap escapeChar)
  | [] => .nil
  | c :: cs => by
    rw [List.flatMap_cons]
    exact (spellsChars_flatMap cs).escapeChar c

/-- A string is read back from its quotes, up to the closing one. -/
theorem readString_quote (s : String) (rest : List Char) :
    readString (s.toList.flatMap escapeChar ++ '"' :: rest) = .ok (s, rest) :=
  (spellsChars_flatMap s.toList).readString rest

end Hotkeys.Json
