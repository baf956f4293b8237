import Hotkeys.Json.Record
import Hotkeys.Proofs.Json.Forms
import Mathlib.Data.List.Forall2
import Mathlib.Data.List.TakeWhile

/-!
# What readers take from the text of a document

A reader accepts a document as a value if it reads this value from every text that spells the
document, and it accepts a form if it does so for every text of the form. Readers that are put
together from others accept what is put together in the same way, and they refuse what one of the
others refuses in its part of the text.
-/

namespace Hotkeys.Json

/-- The reader takes the value from every text of the document, and leaves what is behind it. -/
def Accepts {α : Type} (r : Reader α) (j : Json) (a : α) : Prop :=
  ∀ ⦃cs gap rest⦄, Spells j cs → IsGap gap → Ends rest → r (gap ++ (cs ++ rest)) = .ok (a, rest)

variable {α β : Type} {r : Reader α} {j : Json} {a : α}

/-! ## Simple values -/

theorem accepts_bool (b : Bool) : Accepts readBool (.bool b) b := by
  intro cs gap rest spelt layout ends
  simp only [readBool, spelt.dropLayout layout]
  cases spelt <;> rfl

/-- A word is read back from its document. -/
theorem accepts_word (n : UInt32) : Accepts readWord (.word n) n := by
  intro cs gap rest spelt layout ends
  simp only [readWord, spelt.dropLayout layout]
  cases spelt
  obtain ⟨c, ds, written, digit⟩ := decimal_front n.toNat
  have plain : integer n.toNat = c :: ds := by
    rw [integer, if_neg (Int.not_lt.mpr (Int.natCast_nonneg _)), Int.natAbs_natCast, written]
  have large : n.toNat < UInt64.size := Nat.lt_trans n.toNat_lt (by decide)
  have number := Number.read_decimal large ends.continues
  have word : UInt32.ofNat n.toNat = n := UInt32.ofNat_toNat
  have small : n.toNat < UInt32.size := n.toNat_lt
  have different : c ≠ '-' := by rintro rfl; cases digit
  rw [written, List.cons_append] at number
  rw [plain, List.cons_append]
  simp [digit, number, Except.bind, wordOf, small, word]

theorem accepts_text (expected s : String) : Accepts (readText expected) (.string s) s := by
  intro cs gap rest spelt layout ends
  simp only [readText, spelt.dropLayout layout]
  cases spelt
  simp [quote, readString_quote]

theorem accepts_optionText (expected : String) (o : Option String) :
    Accepts (readOption (readText expected)) (ofOption .string o) o := by
  intro cs gap rest spelt layout ends
  cases o with
  | none =>
    simp only [readOption, spelt.dropLayout layout]
    cases spelt
    rfl
  | some s =>
    have text := accepts_text expected s spelt layout ends
    simp only [readOption, spelt.dropLayout layout, text]
    cases spelt
    rfl

/-- A name is read as what it stands for. -/
theorem accepts_variant {variants : List (String × α)} {name : String}
    (known : variants.lookup name = some a) : Accepts (readVariant variants) (.string name) a := by
  intro cs gap rest spelt layout ends
  simp only [readVariant, spelt.dropLayout layout]
  cases spelt
  simp only [quote, List.cons_append, List.append_assoc, List.nil_append, readString_quote,
    variantOf, bind, Except.bind, known]
  rfl

/-! ## Forms of values -/

/-- The reader takes the value from the text wherever a value may stand, and leaves what is behind
it. -/
structure Reads (r : Reader α) (cs : List Char) (a : α) : Prop where
  front : ∃ c more, cs = c :: more ∧ IsFront c
  takes : ∀ ⦃gap rest⦄, IsGap gap → Ends rest → r (gap ++ (cs ++ rest)) = .ok (a, rest)

/-- The reader stops in the text with the problem, whatever is behind it. -/
structure Refuses (r : Reader α) (p : Problem) (cs : List Char) : Prop where
  front : ∃ c more, cs = c :: more ∧ IsFront c
  refuses : ∀ ⦃gap⦄ rest, IsGap gap → r (gap ++ (cs ++ rest)) = .error p

/-- The reader takes the value from every text of the form. -/
def AcceptsForm (r : Reader α) (form : Form) (a : α) : Prop := ∀ ⦃cs⦄, form cs → Reads r cs a

theorem Accepts.form (accepts : Accepts r j a) : AcceptsForm r (Spells j) a :=
  fun _ spelt => ⟨spelt.front, fun _ _ layout ends => accepts spelt layout ends⟩

/-! ## Values that are passed on -/

theorem AcceptsForm.map {form : Form} (accepts : AcceptsForm r form a) (f : α → β) :
    AcceptsForm (fun cs => (r cs).map fun p => (f p.1, p.2)) form (f a) := by
  intro cs text
  obtain ⟨front, takes⟩ := accepts text
  refine ⟨front, fun gap rest layout ends => ?_⟩
  simp only [takes layout ends, Except.map]

theorem Refuses.map {p : Problem} {cs : List Char} (refuses : Refuses r p cs) (f : α → β) :
    Refuses (fun cs => (r cs).map fun p => (f p.1, p.2)) p cs := by
  obtain ⟨front, refuses⟩ := refuses
  refine ⟨front, fun gap rest layout => ?_⟩
  simp only [refuses rest layout, Except.map]

/-- A reader that looks closer at what it has read takes what passes this look. -/
theorem Accepts.refine (accepts : Accepts r j a) {f : α → Except String β} {b : β}
    (taken : f a = .ok b) : Accepts (r.refine f) j b := by
  intro cs gap rest spelt layout ends
  simp only [Reader.refine, accepts spelt layout ends, Except.bind, taken]

/-! ## Arrays -/

/-- The text goes through elements of an array, each of them read as the value told, up to where
`P` holds of what remains; the flag says whether this is the first element of the array. -/
inductive ItemsUntil (r : Reader α) (P : Bool → List Char → Prop) :
    Bool → List α → List Char → Prop
  | stop {first : Bool} {cs : List Char} : P first cs → ItemsUntil r P first [] cs
  | item {first : Bool} {lead text more : List Char} {a : α} {as : List α} : IsLead first lead →
      Reads r text a → ItemsUntil r P false as more →
      ItemsUntil r P first (a :: as) (lead ++ (text ++ more))

variable {first : Bool} {lead cs rest : List Char} {P : Bool → List Char → Prop} {as : List α}

/-- An element of an array is found behind what stands in front of it. -/
theorem nextElement_lead (front : IsLead first lead) {c : Char} (begins : IsFront c)
    (rest : List Char) : nextElement first (lead ++ c :: rest) = .ok (true, c :: rest) := by
  cases front with
  | first layout => simp [nextElement, dropLayout_gap layout begins.1, begins.2.2.1]
  | next layout layout' =>
    simp [nextElement, dropLayout_gap layout (c := ',') rfl, dropLayout_gap layout' begins.1,
      begins.2.2.1]

/-- The end of an array is found behind layout. -/
theorem nextElement_close (close : IsClose ']' cs) (first : Bool) (rest : List Char) :
    nextElement first (cs ++ rest) = .ok (false, ']' :: rest) := by
  obtain ⟨layout⟩ := close
  simp [nextElement, dropLayout_gap layout (c := ']') rfl]

theorem ItemsUntil.ends (items : ItemsUntil r P false as cs)
    (stop : ∀ cs, P false cs → Ends (cs ++ rest)) : Ends (cs ++ rest) := by
  cases items with
  | stop here => exact stop _ here
  | item lead _ _ =>
    rw [List.append_assoc]
    exact ends_lead lead _

/-- What remains of an array is read as the elements up to the stop and what is read there. -/
theorem ItemsUntil.run (items : ItemsUntil r P first as cs) (rest : List Char)
    (out : Except Problem (List α × List Char)) (ends : ∀ cs, P false cs → Ends (cs ++ rest))
    (stop : ∀ first cs fuel, P first cs → readElements r (fuel + 1) first (cs ++ rest) = out)
    {fuel : Nat} (enough : cs.length ≤ fuel) :
    readElements r (fuel + 1) first (cs ++ rest) = out.map fun p => (as ++ p.1, p.2) := by
  induction items generalizing fuel with
  | stop here =>
    rw [stop _ _ fuel here]
    cases out <;> rfl
  | @item first lead text more a as front one others ih =>
    obtain ⟨c, text, rfl, begins⟩ := one.front
    simp only [List.length_append, List.length_cons] at enough
    -- an element takes one unit of the fuel, and at least one character of the text
    cases fuel with
    | zero => omega
    | succ fuel =>
      have element := one.takes isGap_nil (others.ends ends)
      have elements := @ih fuel (by omega)
      rw [List.nil_append] at element
      simp only [List.append_assoc, List.cons_append] at element ⊢
      rw [readElements]
      simp only [nextElement_lead front begins, element, elements, bind, Except.bind]
      cases out <;> rfl

/-- An array is read as what remains of it behind the opening bracket. -/
theorem ItemsUntil.read (items : ItemsUntil r P true as cs) {gap : List Char} (layout : IsGap gap)
    (rest : List Char) (out : Except Problem (List α × List Char))
    (ends : ∀ cs, P false cs → Ends (cs ++ rest))
    (stop : ∀ first cs fuel, P first cs → readElements r (fuel + 1) first (cs ++ rest) = out) :
    readList r (gap ++ ('[' :: cs ++ rest)) = out.map fun p => (as ++ p.1, p.2) := by
  have enough : cs.length ≤ (cs ++ rest).length := by simp
  have run := items.run rest out ends stop enough
  simp only [readList, List.cons_append, dropLayout_gap layout (c := '[') rfl, run]

/-- The elements of an array that has the forms of what is read. -/
theorem itemsUntil_of_itemsOf {forms : List Form}
    (all : List.Forall₂ (AcceptsForm r) forms as) (items : ItemsOf first forms cs) :
    ItemsUntil r (fun _ => IsClose ']') first as cs := by
  induction all generalizing first cs with
  | nil =>
    cases items with
    | close _ layout => exact .stop (.intro layout)
  | cons one _ ih =>
    cases items with
    | item lead text more => exact .item lead (one text) (ih more)

/-- A list is read from every text of its items. -/
theorem acceptsForm_list {forms : List Form} (all : List.Forall₂ (AcceptsForm r) forms as) :
    AcceptsForm (readList r) (Form.list forms) as := by
  rintro _ ⟨items⟩
  rename_i cs
  refine ⟨⟨'[', cs, rfl, by decide⟩, fun gap rest layout _ => ?_⟩
  have read := (itemsUntil_of_itemsOf all items).read layout rest (.ok ([], rest)) ?_ ?_
  · simpa [Except.map] using read
  · intro cs close
    exact close.ends (.inl rfl) rest
  · intro first cs fuel close
    simp only [readElements, nextElement_close close, bind, Except.bind]
    rfl

/-- The beginning of an element, with what stands in front of it. -/
inductive BeginsItem (inner : Form) : Bool → Form
  | intro {first : Bool} {lead text : List Char} : IsLead first lead → inner text →
      BeginsItem inner first (lead ++ text)

/-- The beginning of an array: elements that are read, and then the beginning of another one. -/
inductive BeginsList (r : Reader α) (inner : Form) : Form
  | intro {as : List α} {cs : List Char} : ItemsUntil r (BeginsItem inner) true as cs →
      BeginsList r inner ('[' :: cs)

/-- What is refused in an element of an array is refused in the array. -/
theorem refuses_list {inner : Form} {p : Problem} (refuses : ∀ cs, inner cs → Refuses r p cs)
    (begins : BeginsList r inner cs) : Refuses (readList r) p cs := by
  obtain ⟨items⟩ := begins
  rename_i as cs
  refine ⟨⟨'[', cs, rfl, by decide⟩, fun gap rest layout => ?_⟩
  refine items.read layout rest (.error p) ?_ ?_
  · rintro _ ⟨front, _⟩
    rw [List.append_assoc]
    exact ends_lead front _
  · rintro first _ fuel ⟨front, inside⟩
    obtain ⟨⟨c, text, rfl, begins⟩, refused⟩ := refuses _ inside
    have stopped := refused rest isGap_nil
    simp only [List.nil_append, List.append_assoc, List.cons_append] at stopped ⊢
    simp only [readElements, nextElement_lead front begins, stopped, bind, Except.bind]

/-! ## Whole texts -/

variable {gap gap' : List Char}

/-- A whole text may have layout around its value. -/
theorem Reads.whole (reads : Reads r cs a) (layout : IsGap gap) (layout' : IsGap gap') :
    readWhole r (String.ofList (gap ++ (cs ++ gap'))) = .ok a := by
  have ends : Ends [] := by simp [Ends]
  have read := reads.takes layout (ends_gap layout' ends)
  have nothing : dropLayout gap' = [] := List.dropWhile_eq_nil_iff.mpr layout'
  rw [List.append_nil] at read
  simp [readWhole, read, nothing, Except.bind]

theorem Refuses.whole {p : Problem} (refuses : Refuses r p cs) (layout : IsGap gap)
    (rest : List Char) : readWhole r (String.ofList (gap ++ (cs ++ rest))) = .error p := by
  simp [readWhole, refuses.refuses rest layout, Except.bind]

end Hotkeys.Json
