import Hotkeys.Proofs.Json.Values

/-!
# Texts that say the same

A value may be written in more than one way, and not only as to layout. The fields of an object may
have any order, their names may be escaped, and fields that nobody asks for may stand among them.
-/

namespace Hotkeys.Json

/-- The texts that a value may be written as. -/
abbrev Form := List Char → Prop

/-- The text is what remains of an array whose elements have the forms told. -/
inductive ItemsOf : Bool → List Form → List Char → Prop
  | close (first : Bool) {gap : List Char} : IsGap gap → ItemsOf first [] (gap ++ [']'])
  | item {first : Bool} {form : Form} {forms : List Form} {lead cs rest : List Char} :
      IsLead first lead → form cs → ItemsOf false forms rest →
      ItemsOf first (form :: forms) (lead ++ (cs ++ rest))

/-- The name of a field, in any spelling, with what stands in front of it. -/
inductive IsKey : Bool → String → List Char → Prop
  | intro {first : Bool} {name : String} {lead text : List Char} : IsLead first lead →
      SpellsChars name.toList text → IsKey first name (lead ++ '"' :: (text ++ ['"']))

/-- The text is what remains of an object whose fields have the names and forms told. -/
inductive FieldsOf : Bool → List (String × Form) → List Char → Prop
  | close (first : Bool) {gap : List Char} : IsGap gap → FieldsOf first [] (gap ++ ['}'])
  | field {first : Bool} {name : String} {form : Form} {fields : List (String × Form)}
      {key colon cs rest : List Char} : IsKey first name key → IsColon colon → form cs →
      FieldsOf false fields rest →
      FieldsOf first ((name, form) :: fields) (key ++ (colon ++ (cs ++ rest)))

namespace Form

/-- An array with an element of each of the forms, in this order. -/
inductive list (forms : List Form) : Form
  | intro {cs : List Char} : ItemsOf true forms cs → list forms ('[' :: cs)

/-- An object with the fields told, in any order, and any number of fields among them whose names
are not among those that are known. -/
inductive record (known : List String) (fields : List (String × Form)) : Form
  | intro {others : List String} {all : List (String × Form)} {cs : List Char} :
      (∀ name ∈ others, name ∉ known) →
      all.Perm (fields ++ others.map fun name => (name, IsValue)) → FieldsOf true all cs →
      record known fields ('{' :: cs)

end Form

variable {cs rest : List Char} {first : Bool}

theorem IsKey.length_pos {name : String} (key : IsKey first name cs) : 0 < cs.length := by
  obtain ⟨_, _⟩ := key
  simp only [List.length_append, List.length_cons]
  omega

theorem IsKey.ends {name : String} (key : IsKey false name cs) (rest : List Char) :
    Ends (cs ++ rest) := by
  obtain ⟨lead, _⟩ := key
  rw [List.append_assoc]
  exact ends_lead lead _

/-- What remains of an array or object behind its last part: the closing bracket. -/
inductive IsClose (bracket : Char) : List Char → Prop
  | intro {gap : List Char} : IsGap gap → IsClose bracket (gap ++ [bracket])

theorem IsClose.ends {bracket : Char} (close : IsClose bracket cs)
    (closes : bracket = ']' ∨ bracket = '}') (rest : List Char) : Ends (cs ++ rest) := by
  obtain ⟨layout⟩ := close
  rw [List.append_assoc]
  refine ends_gap layout ?_
  intro d member
  cases Option.mem_some.mp member
  exact .inr (.inr closes)

/-! ## Documents as forms -/

/-- Every text of a document has the form. -/
def Covers (form : Form) (j : Json) : Prop := ∀ ⦃cs⦄, Spells j cs → form cs

/-- The field has this name and all texts of this value. -/
def CoversField (part : String × Form) (field : String × Json) : Prop :=
  part.1 = field.1 ∧ Covers part.2 field.2

theorem covers_spells (j : Json) : Covers (Spells j) j := fun _ spelt => spelt

theorem itemsOf_of_spells {forms : List Form} {items : List Json}
    (all : List.Forall₂ Covers forms items) (spelt : SpellsItems first items cs) :
    ItemsOf first forms cs := by
  induction all generalizing first cs with
  | nil =>
    cases spelt with
    | close _ layout => exact .close first layout
  | cons one _ ih =>
    cases spelt with
    | front layout value more => exact .item (.first layout) (one value) (ih more)
    | next layout more =>
      cases more with
      | front layout' value more =>
        have read := ItemsOf.item (.next layout layout') (one value) (ih more)
        rwa [List.append_assoc, List.cons_append] at read

theorem isKey_quote {lead : List Char} (front : IsLead first lead) (name : String) :
    IsKey first name (lead ++ quote name.toList) :=
  .intro front (spellsChars_flatMap name.toList)

theorem fieldsOf_of_spells {parts : List (String × Form)} {fields : List (String × Json)}
    (all : List.Forall₂ CoversField parts fields) (spelt : SpellsFields first fields cs) :
    FieldsOf first parts cs := by
  induction all generalizing first cs with
  | nil =>
    cases spelt with
    | close _ layout => exact .close first layout
  | @cons part field _ _ one _ ih =>
    obtain ⟨name, form⟩ := part
    obtain ⟨same, covers⟩ := one
    cases spelt with
    | front _ layout before behind value more =>
      cases same
      have read := FieldsOf.field (isKey_quote (.first layout) name) (.intro before behind)
        (covers value) (ih more)
      simpa only [List.append_assoc, List.cons_append] using read
    | next layout more =>
      cases more with
      | front _ layout' before behind value more =>
        cases same
        have read := FieldsOf.field (isKey_quote (.next layout layout') name)
          (.intro before behind) (covers value) (ih more)
        simpa only [List.append_assoc, List.cons_append] using read

/-- A list is among the texts of its items. -/
theorem covers_list {forms : List Form} {items : List Json}
    (all : List.Forall₂ Covers forms items) : Covers (Form.list forms) (.array items) := by
  intro cs spelt
  cases spelt with
  | array more => exact .intro (itemsOf_of_spells all more)

/-- A document has its own fields, in their order, and no others. -/
theorem covers_record {parts : List (String × Form)} {fields : List (String × Json)}
    (all : List.Forall₂ CoversField parts fields) (known : List String) :
    Covers (Form.record known parts) (.object fields) := by
  intro cs spelt
  have none : ∀ name ∈ ([] : List String), name ∉ known := by simp
  cases spelt with
  | object more => exact .intro none (by simp) (fieldsOf_of_spells all more)

end Hotkeys.Json
