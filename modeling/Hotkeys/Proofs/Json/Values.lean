import Hotkeys.Json.Skip
import Hotkeys.Proofs.Json.Spelling
import Hotkeys.Proofs.Json.Strings

/-!
# Values of any kind

The grammar of values, as texts. The value of a field that nobody wants may be any of them, of any
size and depth, and it is passed over whole.
-/

namespace Hotkeys.Json

/-- The inside of a string. It need not be valid Unicode: an escape may stand for half of a
character only. -/
inductive IsChars : List Char → Prop
  | nil : IsChars []
  | plain {c : Char} {cs : List Char} : c ≠ '"' → c ≠ '\\' → 0x20 ≤ c.toNat → IsChars cs →
      IsChars (c :: cs)
  | letter {l : Char} {cs : List Char} : (simpleEscape? l).isSome → IsChars cs →
      IsChars ('\\' :: l :: cs)
  | code {a b c d : Char} {cs : List Char} : (hexFour? a b c d).isSome → IsChars cs →
      IsChars ('\\' :: 'u' :: a :: b :: c :: d :: cs)

def IsDigits (cs : List Char) : Prop := cs ≠ [] ∧ ∀ c ∈ cs, c.isDigit = true

/-- The digits in front of the point, none of them too many. -/
inductive IsWhole : List Char → Prop
  | zero : IsWhole ['0']
  | digits {c : Char} {cs : List Char} : c ≠ '0' → IsDigits (c :: cs) → IsWhole (c :: cs)

inductive IsFraction : List Char → Prop
  | none : IsFraction []
  | point {cs : List Char} : IsDigits cs → IsFraction ('.' :: cs)

inductive IsExponent : List Char → Prop
  | none : IsExponent []
  | plain {e : Char} {cs : List Char} : e ∈ ['e', 'E'] → IsDigits cs → IsExponent (e :: cs)
  | signed {e sign : Char} {cs : List Char} : e ∈ ['e', 'E'] → sign ∈ ['+', '-'] → IsDigits cs →
      IsExponent (e :: sign :: cs)

/-- A number that is not below zero. -/
inductive IsMagnitude : List Char → Prop
  | intro {whole fraction exponent : List Char} : IsWhole whole → IsFraction fraction →
      IsExponent exponent → IsMagnitude (whole ++ (fraction ++ exponent))

mutual

/-- The text is that of a value. -/
inductive IsValue : List Char → Prop
  | null : IsValue ['n', 'u', 'l', 'l']
  | true : IsValue ['t', 'r', 'u', 'e']
  | false : IsValue ['f', 'a', 'l', 's', 'e']
  | number {cs : List Char} : IsMagnitude cs → IsValue cs
  | negative {cs : List Char} : IsMagnitude cs → IsValue ('-' :: cs)
  | string {cs : List Char} : IsChars cs → IsValue ('"' :: (cs ++ ['"']))
  | array {cs : List Char} : IsItems .true cs → IsValue ('[' :: cs)
  | object {cs : List Char} : IsFields .true cs → IsValue ('{' :: cs)

/-- The text is what remains of an array, from its first element or from behind another one. -/
inductive IsItems : Bool → List Char → Prop
  | close (first : Bool) {gap : List Char} : IsGap gap → IsItems first (gap ++ [']'])
  | item {first : Bool} {lead cs rest : List Char} : IsLead first lead → IsValue cs →
      IsItems .false rest → IsItems first (lead ++ (cs ++ rest))

/-- The text is what remains of an object, in the same way. -/
inductive IsFields : Bool → List Char → Prop
  | close (first : Bool) {gap : List Char} : IsGap gap → IsFields first (gap ++ ['}'])
  | field {first : Bool} {lead name colon cs rest : List Char} : IsLead first lead →
      IsChars name → IsColon colon → IsValue cs → IsFields .false rest →
      IsFields first (lead ++ '"' :: (name ++ '"' :: (colon ++ (cs ++ rest))))

end

variable {cs gap rest : List Char}

/-! ## Strings and numbers -/

theorem skipChars_isChars (chars : IsChars cs) (rest : List Char) :
    skipChars (cs ++ '"' :: rest) = .ok rest := by
  induction chars with
  | nil => simp [skipChars]
  | plain _ slash large _ ih =>
    have visible := Nat.not_lt.mpr large
    simp [skipChars, slash, visible, ih]
  | letter known _ ih =>
    obtain ⟨c, known⟩ := Option.isSome_iff_exists.mp known
    simp [skipChars, letter_ne_u known, known, ih]
  | code known _ ih =>
    obtain ⟨n, known⟩ := Option.isSome_iff_exists.mp known
    simp [skipChars, known, ih]

open Number

theorem dropDigits_append (digits : ∀ c ∈ cs, c.isDigit = true)
    (ends : startsWithDigit rest = false) : dropDigits (cs ++ rest) = rest := by
  rw [dropDigits, List.dropWhile_append_of_pos digits]
  exact dropDigits_of_ends ends

theorem skipDigits_isDigits (digits : IsDigits cs) (ends : startsWithDigit rest = false) :
    skipDigits (cs ++ rest) = .ok rest := by
  obtain ⟨some, all⟩ := digits
  cases cs with
  | nil => exact absurd rfl some
  | cons c cs =>
    have starts : startsWithDigit (c :: cs ++ rest) = true := all c List.mem_cons_self
    rw [skipDigits, if_pos starts, dropDigits_append all ends]

theorem startsWithDigit_of_continues (ends : continues cs = false) :
    startsWithDigit cs = false := by
  cases cs with
  | nil => rfl
  | cons c cs => simp_all [continues, startsWithDigit]

theorem skipTail_isExponent (exponent : IsExponent cs) (ends : continues rest = false) :
    skipTail (cs ++ rest) = .ok rest := by
  have other := startsWithDigit_of_continues ends
  cases exponent with
  | none =>
    rw [List.nil_append, skipTail]
    all_goals rintro _ rfl; simp [continues] at ends
  | @plain e ds letter digits =>
    have exact : skipExponent (ds ++ rest) = .ok rest := by
      have passed := skipDigits_isDigits digits other
      obtain ⟨some, all⟩ := digits
      cases ds with
      | nil => exact absurd rfl some
      | cons d ds =>
        have digit := all d List.mem_cons_self
        rw [List.cons_append, skipExponent]
        · exact passed
        all_goals rintro _ ⟨⟩; cases digit
    simp only [List.mem_cons, List.not_mem_nil, or_false] at letter
    obtain rfl | rfl := letter <;> exact exact
  | signed letter sign digits =>
    simp only [List.mem_cons, List.not_mem_nil, or_false] at letter sign
    obtain rfl | rfl := letter <;> obtain rfl | rfl := sign <;>
      exact skipDigits_isDigits digits other

/-- Behind the digits of a number there is neither another digit nor a point. -/
theorem IsExponent.stops (exponent : IsExponent cs) (ends : continues rest = false) :
    startsWithDigit (cs ++ rest) = false ∧ ∀ more, cs ++ rest ≠ '.' :: more := by
  cases exponent with
  | none =>
    refine ⟨startsWithDigit_of_continues ends, ?_⟩
    rintro more rfl
    simp [continues] at ends
  | plain letter digits =>
    simp only [List.mem_cons, List.not_mem_nil, or_false] at letter
    obtain rfl | rfl := letter <;> exact ⟨rfl, by simp⟩
  | signed letter sign digits =>
    simp only [List.mem_cons, List.not_mem_nil, or_false] at letter
    obtain rfl | rfl := letter <;> exact ⟨rfl, by simp⟩

/-- The first digit of a number can stand in front of the others, and these end where no further
digit stands. -/
theorem IsWhole.front (whole : IsWhole cs) : ∃ c more, cs = c :: more ∧ c.isDigit = true ∧
    ∀ rest, startsWithDigit rest = false →
      ¬ (c = '0' ∧ startsWithDigit (more ++ rest) = true) ∧ dropDigits (more ++ rest) = rest := by
  cases whole with
  | zero =>
    refine ⟨'0', [], rfl, rfl, fun rest stops => ⟨?_, dropDigits_of_ends stops⟩⟩
    simp [stops]
  | digits nonzero digits =>
    refine ⟨_, _, rfl, digits.2 _ List.mem_cons_self, fun rest stops => ⟨?_, ?_⟩⟩
    · simp [nonzero]
    · exact dropDigits_append (fun d member => digits.2 d (.tail _ member)) stops

theorem IsWhole.skipNumber_point (whole : IsWhole cs) (rest : List Char) :
    skipNumber (cs ++ '.' :: rest) = (skipDigits rest).bind skipTail := by
  obtain ⟨c, more, rfl, digit, front⟩ := whole.front
  obtain ⟨plain, others⟩ := front ('.' :: rest) rfl
  simp only [List.cons_append, skipNumber, digit, not_true_eq_false, false_or, if_neg plain, others]

theorem IsWhole.skipNumber_tail (whole : IsWhole cs) (stops : startsWithDigit rest = false)
    (noPoint : ∀ more, rest ≠ '.' :: more) : skipNumber (cs ++ rest) = skipTail rest := by
  obtain ⟨c, more, rfl, digit, front⟩ := whole.front
  obtain ⟨plain, others⟩ := front rest stops
  simp only [List.cons_append, skipNumber, digit, not_true_eq_false, false_or, if_neg plain, others]

/-- A number is passed over as a whole. -/
theorem skipNumber_isMagnitude (number : IsMagnitude cs) (ends : continues rest = false) :
    skipNumber (cs ++ rest) = .ok rest := by
  obtain ⟨whole, fraction, exponent⟩ := number
  have passed := skipTail_isExponent exponent ends
  obtain ⟨noDigit, noPoint⟩ := exponent.stops ends
  rw [List.append_assoc, List.append_assoc]
  cases fraction with
  | none =>
    rw [List.nil_append, whole.skipNumber_tail noDigit noPoint]
    exact passed
  | point digits =>
    rw [List.cons_append, whole.skipNumber_point, skipDigits_isDigits digits noDigit]
    exact passed

/-! ## Whole values -/

theorem IsMagnitude.front (number : IsMagnitude cs) :
    ∃ c more, cs = c :: more ∧ c.isDigit = true := by
  obtain ⟨whole, _, _⟩ := number
  obtain ⟨c, more, rfl, digit, _⟩ := whole.front
  exact ⟨c, _, rfl, digit⟩

theorem IsValue.front (value : IsValue cs) : ∃ c more, cs = c :: more ∧ IsFront c := by
  cases value with
  | number number =>
    obtain ⟨c, more, rfl, digit⟩ := number.front
    exact ⟨c, more, rfl, isFront_of_isDigit digit⟩
  | _ => exact ⟨_, _, rfl, by decide⟩

theorem IsItems.ends (items : IsItems false cs) (rest : List Char) : Ends (cs ++ rest) := by
  cases items with
  | close _ layout =>
    rw [List.append_assoc]
    exact ends_gap layout (by simp [Ends])
  | item lead _ _ =>
    rw [List.append_assoc]
    exact ends_lead lead _

theorem IsFields.ends (fields : IsFields false cs) (rest : List Char) : Ends (cs ++ rest) := by
  cases fields with
  | close _ layout =>
    rw [List.append_assoc]
    exact ends_gap layout (by simp [Ends])
  | field lead _ _ _ _ =>
    rw [List.append_assoc]
    exact ends_lead lead _

theorem IsValue.length_pos (value : IsValue cs) : 0 < cs.length := by
  obtain ⟨c, more, rfl, _⟩ := value.front
  exact Nat.succ_pos _

theorem IsItems.length_pos {first : Bool} (items : IsItems first cs) : 0 < cs.length := by
  cases items with
  | close _ _ => simp
  | item _ value _ =>
    have positive := value.length_pos
    simp only [List.length_append]
    omega

theorem IsFields.length_pos {first : Bool} (fields : IsFields first cs) : 0 < cs.length := by
  cases fields with
  | close _ _ => simp
  | field _ _ _ _ _ =>
    simp only [List.length_append, List.length_cons]
    omega

theorem skipKey_name {name colon : List Char} (layout : IsGap gap) (chars : IsChars name)
    (between : IsColon colon) : ∃ gap', IsGap gap' ∧ ∀ rest,
      skipKey (gap ++ '"' :: (name ++ '"' :: (colon ++ rest))) = .ok (gap' ++ rest) := by
  obtain ⟨gap', layout', read⟩ := between.read
  refine ⟨gap', layout', fun rest => ?_⟩
  simp [skipKey, dropLayout_gap layout (c := '"') rfl, skipChars_isChars chars, read, bind,
    Except.bind]

mutual

/-- A value is passed over up to its end. -/
theorem IsValue.skip {cs gap rest : List Char} : ∀ fuel, IsValue cs → cs.length ≤ fuel →
    IsGap gap → Ends rest → skipValue fuel (gap ++ (cs ++ rest)) = .ok rest
  | 0, value, enough, _, _ => absurd value.length_pos (Nat.not_lt.mpr enough)
  | fuel + 1, .null, _, layout, _ => by
    simp [skipValue, dropLayout_gap layout (c := 'n') rfl, readLetters]
  | fuel + 1, .true, _, layout, _ => by
    simp [skipValue, dropLayout_gap layout (c := 't') rfl, readLetters]
  | fuel + 1, .false, _, layout, _ => by
    simp [skipValue, dropLayout_gap layout (c := 'f') rfl, readLetters]
  | fuel + 1, .number magnitude, _, layout, ends => by
    have passed := skipNumber_isMagnitude magnitude ends.continues
    obtain ⟨c, more, rfl, digit⟩ := magnitude.front
    have found := dropLayout_gap layout (isFront_of_isDigit digit).1 (more ++ rest)
    rw [List.cons_append] at passed ⊢
    rw [skipValue]
    split <;> rename_i same <;> cases found.symm.trans same
    all_goals first | cases digit | simp [digit, passed]
  | fuel + 1, .negative magnitude, _, layout, ends => by
    simp [skipValue, dropLayout_gap layout (c := '-') rfl,
      skipNumber_isMagnitude magnitude ends.continues]
  | fuel + 1, .string chars, _, layout, _ => by
    simp [skipValue, dropLayout_gap layout (c := '"') rfl, skipChars_isChars chars]
  | fuel + 1, .array (.close _ inside), _, layout, _ => by
    simp [skipValue, dropLayout_gap layout (c := '[') rfl, dropLayout_gap inside (c := ']') rfl]
  | fuel + 1, .array (.item (.first inside) value items), enough, layout, _ => by
    simp only [List.length_cons, List.length_append] at enough
    have one := value.skip fuel (by omega) isGap_nil (items.ends rest)
    have others := items.skip fuel rest (by omega)
    obtain ⟨c, more, rfl, front⟩ := value.front
    simp only [List.nil_append, List.cons_append] at one
    simp [skipValue, dropLayout_gap layout (c := '[') rfl, dropLayout_gap inside front.1,
      front.2.2.1, one, others, bind, Except.bind]
  | fuel + 1, .object (.close _ inside), _, layout, _ => by
    simp [skipValue, dropLayout_gap layout (c := '{') rfl, dropLayout_gap inside (c := '}') rfl]
  | fuel + 1, .object (.field (.first inside) name colon value fields), enough, layout, _ => by
    simp only [List.length_cons, List.length_append] at enough
    obtain ⟨_, layout', key⟩ := skipKey_name isGap_nil name colon
    have one := value.skip fuel (by omega) layout' (fields.ends rest)
    have others := fields.skip fuel rest (by omega)
    simp only [List.nil_append] at key
    simp [skipValue, dropLayout_gap layout (c := '{') rfl, dropLayout_gap inside (c := '"') rfl,
      key, one, others, bind, Except.bind]

/-- The rest of an array is passed over behind one of its elements. -/
theorem IsItems.skip {cs : List Char} : ∀ fuel rest, IsItems false cs → cs.length ≤ fuel →
    skipItems fuel (cs ++ rest) = .ok rest
  | 0, _, items, enough => absurd items.length_pos (Nat.not_lt.mpr enough)
  | fuel + 1, rest, .close _ layout, _ => by
    simp [skipItems, dropLayout_gap layout (c := ']') rfl]
  | fuel + 1, rest, .item (.next layout inside) value items, enough => by
    simp only [List.length_cons, List.length_append] at enough
    have one := value.skip fuel (by omega) inside (items.ends rest)
    have others := items.skip fuel rest (by omega)
    simp [skipItems, dropLayout_gap layout (c := ',') rfl, one, others, bind, Except.bind]

/-- The rest of an object is passed over behind one of its fields. -/
theorem IsFields.skip {cs : List Char} : ∀ fuel rest, IsFields false cs → cs.length ≤ fuel →
    skipFields fuel (cs ++ rest) = .ok rest
  | 0, _, fields, enough => absurd fields.length_pos (Nat.not_lt.mpr enough)
  | fuel + 1, rest, .close _ layout, _ => by
    simp [skipFields, dropLayout_gap layout (c := '}') rfl]
  | fuel + 1, rest, .field (.next layout inside) name colon value fields, enough => by
    simp only [List.length_cons, List.length_append] at enough
    obtain ⟨_, layout', key⟩ := skipKey_name inside name colon
    have one := value.skip fuel (by omega) layout' (fields.ends rest)
    have others := fields.skip fuel rest (by omega)
    simp [skipFields, dropLayout_gap layout (c := ',') rfl, key, one, others, bind, Except.bind]

end

/-- A value of any kind is passed over as a whole. -/
theorem skip_isValue (value : IsValue cs) (layout : IsGap gap) (ends : Ends rest) :
    skip (gap ++ (cs ++ rest)) = .ok rest := by
  refine value.skip _ ?_ layout ends
  simp only [List.length_append]
  omega

end Hotkeys.Json
