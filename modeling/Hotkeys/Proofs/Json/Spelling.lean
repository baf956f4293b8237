import Hotkeys.Json.Basic
import Hotkeys.Json.Reader
import Hotkeys.Proofs.Text.Decimal

/-!
# The texts of a document

Layout may stand in front of every part of a document. A text spells a document if it differs from
the compact text in layout only; the compact and the pretty text are two such texts. What readers
do with a document is the same for every text that spells it.
-/

namespace Hotkeys.Json

/-- Layout between the parts of a document. -/
def IsGap (cs : List Char) : Prop := ∀ c ∈ cs, isLayout c = true

/-- What stands in front of an element or a field: layout, and a comma unless it is the first. -/
inductive IsLead : Bool → List Char → Prop
  | first {gap : List Char} : IsGap gap → IsLead true gap
  | next {gap gap' : List Char} : IsGap gap → IsGap gap' → IsLead false (gap ++ ',' :: gap')

/-- What stands between the name of a field and its value. -/
inductive IsColon : List Char → Prop
  | intro {gap gap' : List Char} : IsGap gap → IsGap gap' → IsColon (gap ++ ':' :: gap')

mutual

/-- The text is the document, up to layout inside of it. -/
inductive Spells : Json → List Char → Prop
  | null : Spells .null ['n', 'u', 'l', 'l']
  | true : Spells (.bool true) ['t', 'r', 'u', 'e']
  | false : Spells (.bool false) ['f', 'a', 'l', 's', 'e']
  | number (n : Int) : Spells (.number n) (integer n)
  | string (s : String) : Spells (.string s) (quote s.toList)
  | array {items : List Json} {cs : List Char} :
      SpellsItems .true items cs → Spells (.array items) ('[' :: cs)
  | object {fields : List (String × Json)} {cs : List Char} :
      SpellsFields .true fields cs → Spells (.object fields) ('{' :: cs)

/-- The text is what remains of an array: the elements with commas between them, and the closing
bracket. A comma is in front of the first of them unless the array begins here. -/
inductive SpellsItems : Bool → List Json → List Char → Prop
  | close (first : Bool) {gap : List Char} : IsGap gap → SpellsItems first [] (gap ++ [']'])
  | front {item : Json} {items : List Json} {gap cs rest : List Char} : IsGap gap →
      Spells item cs → SpellsItems .false items rest →
      SpellsItems .true (item :: items) (gap ++ (cs ++ rest))
  | next {item : Json} {items : List Json} {gap cs : List Char} : IsGap gap →
      SpellsItems .true (item :: items) cs → SpellsItems .false (item :: items) (gap ++ ',' :: cs)

/-- The text is what remains of an object, in the same way. -/
inductive SpellsFields : Bool → List (String × Json) → List Char → Prop
  | close (first : Bool) {gap : List Char} : IsGap gap → SpellsFields first [] (gap ++ ['}'])
  | front (name : String) {value : Json} {fields : List (String × Json)}
      {gap colonGap valueGap cs rest : List Char} : IsGap gap → IsGap colonGap → IsGap valueGap →
      Spells value cs → SpellsFields .false fields rest →
      SpellsFields .true ((name, value) :: fields)
        (gap ++ (quote name.toList ++ (colonGap ++ ':' :: (valueGap ++ (cs ++ rest)))))
  | next {field : String × Json} {fields : List (String × Json)} {gap cs : List Char} :
      IsGap gap → SpellsFields .true (field :: fields) cs →
      SpellsFields .false (field :: fields) (gap ++ ',' :: cs)

end

/-! ## The two texts that are written -/

theorem isGap_nil : IsGap [] := by simp [IsGap]

theorem isGap_space : IsGap [' '] := by simp [IsGap, isLayout]

theorem isGap_newLine (depth : Nat) : IsGap (newLine depth) := by
  intro c member
  cases List.mem_cons.mp member with
  | inl same => subst same; rfl
  | inr space => rw [List.eq_of_mem_replicate space]; rfl

mutual

/-- The compact text spells its document. -/
theorem spells_compact : ∀ j : Json, Spells j j.compact
  | .null => .null
  | .bool true => .true
  | .bool false => .false
  | .number n => .number n
  | .string s => .string s
  | .array items => .array (spells_compactItems items)
  | .object fields => .object (spells_compactFields fields)

theorem spells_compactItems : ∀ items : List Json,
    SpellsItems true items (compactItems items ++ [']'])
  | [] => .close true isGap_nil
  | [item] => .front isGap_nil (spells_compact item) (.close false isGap_nil)
  | item :: next :: rest => by
    have more := SpellsItems.next isGap_nil (spells_compactItems (next :: rest))
    simpa [compactItems] using SpellsItems.front isGap_nil (spells_compact item) more

theorem spells_compactFields : ∀ fields : List (String × Json),
    SpellsFields true fields (compactFields fields ++ ['}'])
  | [] => .close true isGap_nil
  | [(name, value)] => by
    have closed := SpellsFields.close false isGap_nil
    simpa [compactFields] using
      SpellsFields.front name isGap_nil isGap_nil isGap_nil (spells_compact value) closed
  | (name, value) :: next :: rest => by
    have more := SpellsFields.next isGap_nil (spells_compactFields (next :: rest))
    simpa [compactFields] using
      SpellsFields.front name isGap_nil isGap_nil isGap_nil (spells_compact value) more

end

mutual

/-- The pretty text spells its document. -/
theorem spells_prettyAt (depth : Nat) : ∀ j : Json, Spells j (j.prettyAt depth)
  | .null => .null
  | .bool true => .true
  | .bool false => .false
  | .number n => .number n
  | .string s => .string s
  | .array [] => .array (.close true isGap_nil)
  | .array (item :: rest) => by
    have more := spells_prettyItems depth (depth + 1) rest
    have front := SpellsItems.front (isGap_newLine (depth + 1))
      (spells_prettyAt (depth + 1) item) more
    simpa [prettyAt] using Spells.array front
  | .object [] => .object (.close true isGap_nil)
  | .object ((name, value) :: rest) => by
    have more := spells_prettyFields depth (depth + 1) rest
    have front := SpellsFields.front name (isGap_newLine (depth + 1)) isGap_nil
      isGap_space (spells_prettyAt (depth + 1) value) more
    simpa [prettyAt] using Spells.object front

theorem spells_prettyItems (outer depth : Nat) : ∀ items : List Json,
    SpellsItems false items (prettyItems depth items ++ (newLine outer ++ [']']))
  | [] => .close false (isGap_newLine outer)
  | item :: rest => by
    have more := spells_prettyItems outer depth rest
    have front := SpellsItems.front (isGap_newLine depth) (spells_prettyAt depth item) more
    simpa [prettyItems] using SpellsItems.next isGap_nil front

theorem spells_prettyFields (outer depth : Nat) : ∀ fields : List (String × Json),
    SpellsFields false fields (prettyFields depth fields ++ (newLine outer ++ ['}']))
  | [] => .close false (isGap_newLine outer)
  | (name, value) :: rest => by
    have more := spells_prettyFields outer depth rest
    have front := SpellsFields.front name (isGap_newLine depth) isGap_nil isGap_space
      (spells_prettyAt depth value) more
    simpa [prettyFields] using SpellsFields.next isGap_nil front

end

/-! ## Where the text of a value begins and what stands behind it -/

/-- A character that a value can begin with. -/
def IsFront (c : Char) : Prop := isLayout c = false ∧ c ≠ ',' ∧ c ≠ ']' ∧ c ≠ '}'

instance (c : Char) : Decidable (IsFront c) := inferInstanceAs (Decidable (_ ∧ _))

/-- What can stand behind a value: layout, or what goes on with the value around it or closes it. -/
def Ends (cs : List Char) : Prop :=
  ∀ c ∈ cs.head?, isLayout c = true ∨ c = ',' ∨ c = ']' ∨ c = '}'

variable {gap cs : List Char}

theorem dropLayout_gap (layout : IsGap gap) {c : Char} (solid : isLayout c = false)
    (cs : List Char) : dropLayout (gap ++ c :: cs) = c :: cs := by
  rw [dropLayout, List.dropWhile_append_of_pos layout]
  exact List.dropWhile_cons_of_neg (by simp [solid])

theorem isFront_of_isDigit {c : Char} (digit : c.isDigit = true) : IsFront c := by
  refine ⟨?_, ?_, ?_, ?_⟩
  · simp only [isLayout, Bool.or_eq_false_iff, beq_eq_false_iff_ne, ne_eq]
    refine ⟨⟨⟨?_, ?_⟩, ?_⟩, ?_⟩ <;> rintro rfl <;> cases digit
  all_goals rintro rfl; cases digit

theorem decimal_front (n : Nat) : ∃ c rest, Text.decimal n = c :: rest ∧ c.isDigit = true := by
  cases written : Text.decimal n with
  | nil =>
    by_cases small : n < 10
    · simp [Text.decimal_of_lt small] at written
    · simp [Text.decimal_of_le (Nat.not_lt.mp small)] at written
  | cons c rest =>
    exact ⟨c, rest, rfl, Text.isDigit_of_mem_decimal c (written ▸ List.mem_cons_self)⟩

theorem Spells.front {j : Json} (spelt : Spells j cs) : ∃ c rest, cs = c :: rest ∧ IsFront c := by
  cases spelt with
  | number n =>
    obtain ⟨c, rest, written, digit⟩ := decimal_front n.natAbs
    by_cases negative : n < 0
    · exact ⟨'-', _, if_pos negative, by decide⟩
    · exact ⟨c, rest, (if_neg negative).trans written, isFront_of_isDigit digit⟩
  | null => exact ⟨_, _, rfl, by decide⟩
  | true => exact ⟨_, _, rfl, by decide⟩
  | false => exact ⟨_, _, rfl, by decide⟩
  | string s => exact ⟨_, _, rfl, by decide⟩
  | array items => exact ⟨_, _, rfl, by decide⟩
  | object fields => exact ⟨_, _, rfl, by decide⟩

/-- A reader finds the text of a value behind the layout in front of it. -/
theorem Spells.dropLayout {j : Json} (spelt : Spells j cs) (layout : IsGap gap)
    (rest : List Char) : dropLayout (gap ++ (cs ++ rest)) = cs ++ rest := by
  obtain ⟨c, more, rfl, front⟩ := spelt.front
  exact dropLayout_gap layout front.1 (more ++ rest)

theorem ends_gap (layout : IsGap gap) (ends : Ends cs) : Ends (gap ++ cs) := by
  cases gap with
  | nil => exact ends
  | cons c more =>
    intro d member
    cases Option.mem_some.mp member
    exact .inl (layout c List.mem_cons_self)

/-- What is behind an element or a field ends it. -/
theorem ends_lead {lead : List Char} (front : IsLead false lead) (rest : List Char) :
    Ends (lead ++ rest) := by
  cases front with
  | next layout _ =>
    rw [List.append_assoc]
    exact ends_gap layout (by simp [Ends])

/-- Reading goes on behind the colon. -/
theorem IsColon.read {colon : List Char} (between : IsColon colon) :
    ∃ gap, IsGap gap ∧ ∀ rest, readColon (colon ++ rest) = .ok (gap ++ rest) := by
  obtain ⟨layout, layout'⟩ := between
  refine ⟨_, layout', fun rest => ?_⟩
  simp [readColon, dropLayout_gap layout (c := ':') rfl]

theorem Ends.continues (ends : Ends cs) : Number.continues cs = false := by
  cases cs with
  | nil => rfl
  | cons c rest =>
    have one := ends c rfl
    simp only [isLayout, Bool.or_eq_true, beq_iff_eq] at one
    obtain (((rfl | rfl) | rfl) | rfl) | rfl | rfl | rfl := one <;> rfl

end Hotkeys.Json
