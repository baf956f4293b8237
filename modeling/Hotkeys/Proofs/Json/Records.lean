import Hotkeys.Proofs.Json.Readers

/-!
# What records take from the text of an object

The fields of an object are taken in one after the other, each by the reader of its field, and those
that the record does not have are passed over. All that happens is told by how far the fields have
been read: an object is accepted where it ends, if all required fields have been seen, and is
refused where a field stands that has been seen before.
-/

namespace Hotkeys.Json.Record

variable {α : Type} {kind : Record α}

def names (kind : Record α) : List String := kind.fields.map (·.name)

theorem find?_eq_none_of_notMem {name : String} (other : name ∉ kind.names) :
    kind.fields.find? (fun f => f.name == name) = none := by
  rw [List.find?_eq_none]
  intro f member same
  exact other (List.mem_map.mpr ⟨f, member, by simpa using same⟩)

theorem exists_find?_of_mem {name : String} (known : name ∈ kind.names) :
    ∃ f, kind.fields.find? (fun f => f.name == name) = some f := by
  obtain ⟨f, member, rfl⟩ := List.mem_map.mp known
  exact Option.isSome_iff_exists.mp (List.find?_isSome.mpr ⟨f, member, by simp⟩)

/-- The text goes through fields of an object, up to where `P` holds of what remains, of the names
that have been seen and of the record; the flag says whether this is the first field. -/
inductive FieldsUntil (kind : Record α) (P : Bool → List String → α → List Char → Prop) :
    Bool → List String → α → List Char → Prop
  | stop {first : Bool} {seen : List String} {a : α} {cs : List Char} : P first seen a cs →
      FieldsUntil kind P first seen a cs
  | known {first : Bool} {seen : List String} {a : α} {name : String} {f : Field α} {set : α → α}
      {key colon text more : List Char} : IsKey first name key → IsColon colon →
      kind.fields.find? (fun g => g.name == name) = some f → name ∉ seen →
      Reads f.read text set → FieldsUntil kind P false (name :: seen) (set a) more →
      FieldsUntil kind P first seen a (key ++ (colon ++ (text ++ more)))
  | unknown {first : Bool} {seen : List String} {a : α} {name : String}
      {key colon text more : List Char} : IsKey first name key → IsColon colon →
      name ∉ kind.names → IsValue text → FieldsUntil kind P false seen a more →
      FieldsUntil kind P first seen a (key ++ (colon ++ (text ++ more)))

variable {P : Bool → List String → α → List Char → Prop} {first : Bool} {seen : List String}
  {a b : α} {name : String} {f : Field α} {key cs rest : List Char}

/-! ## One field -/

/-- Behind an opening brace or a comma, a key is read, then its value, and then what is behind. -/
theorem readFields_key (front : IsKey first name key) (fuel : Nat) (seen : List String) (a : α)
    (rest : List Char) : kind.readFields (fuel + 1) first seen a (key ++ rest) =
      (kind.readField name seen a rest).bind fun p =>
        kind.readFields fuel false p.1.2 p.1.1 p.2 := by
  obtain ⟨lead, spelt⟩ := front
  cases lead with
  | first layout =>
    simp [readFields, dropLayout_gap layout (c := '"') rfl, spelt.readString, bind, Except.bind]
  | next layout layout' =>
    simp [readFields, dropLayout_gap layout (c := ',') rfl,
      dropLayout_gap layout' (c := '"') rfl, spelt.readString, bind, Except.bind]

variable {colon text : List Char}

theorem readField_known {set : α → α}
    (known : kind.fields.find? (fun g => g.name == name) = some f) (new : name ∉ seen)
    (between : IsColon colon) (reads : Reads f.read text set) (ends : Ends rest) (a : α) :
    kind.readField name seen a (colon ++ (text ++ rest)) = .ok ((set a, name :: seen), rest) := by
  obtain ⟨gap, layout, colonRead⟩ := between.read
  have unseen : seen.contains name = false := by simpa using new
  have taken := reads.takes layout ends
  simp only [readField, known, unseen, colonRead, taken, bind, Except.bind]
  rfl

/-- A field that a record does not have is passed over, whatever its value is. -/
theorem readField_unknown (other : name ∉ kind.names) (between : IsColon colon)
    (value : IsValue text) (ends : Ends rest) (seen : List String) (a : α) :
    kind.readField name seen a (colon ++ (text ++ rest)) = .ok ((a, seen), rest) := by
  obtain ⟨gap, layout, colonRead⟩ := between.read
  have passed := skip_isValue value layout ends
  simp only [readField, find?_eq_none_of_notMem other, colonRead, passed, bind, Except.bind]
  rfl

/-- What is refused in the value of a field is refused in the field. -/
theorem readField_refuses {p : Problem}
    (known : kind.fields.find? (fun g => g.name == name) = some f) (new : name ∉ seen)
    (between : IsColon colon) (refuses : Refuses f.read p text) (a : α) (rest : List Char) :
    kind.readField name seen a (colon ++ (text ++ rest)) = .error p := by
  obtain ⟨gap, layout, colonRead⟩ := between.read
  have unseen : seen.contains name = false := by simpa using new
  have stopped := refuses.refuses rest layout
  simp only [readField, known, unseen, colonRead, stopped, bind, Except.bind]
  rfl

/-- A field that has been seen is refused, whatever stands behind its name. -/
theorem readField_again (known : name ∈ kind.names) (again : name ∈ seen) (a : α)
    (rest : List Char) :
    kind.readField name seen a rest = .error (.misfit (.duplicateField name)) := by
  obtain ⟨f, found⟩ := exists_find?_of_mem known
  have twice : seen.contains name = true := by simpa using again
  simp only [readField, found, twice]
  rfl

/-! ## All fields up to a point -/

theorem FieldsUntil.ends (fields : FieldsUntil kind P false seen a cs)
    (stop : ∀ seen a cs, P false seen a cs → Ends (cs ++ rest)) : Ends (cs ++ rest) := by
  cases fields with
  | stop here => exact stop _ _ _ here
  | known key _ _ _ _ _ =>
    rw [List.append_assoc]
    exact key.ends _
  | unknown key _ _ _ _ =>
    rw [List.append_assoc]
    exact key.ends _

/-- What remains of an object is read as what is read where `P` holds. -/
theorem FieldsUntil.run (fields : FieldsUntil kind P first seen a cs) (rest : List Char)
    (out : Except Problem (α × List Char))
    (ends : ∀ seen a cs, P false seen a cs → Ends (cs ++ rest))
    (stop : ∀ first seen a cs fuel, P first seen a cs →
      kind.readFields (fuel + 1) first seen a (cs ++ rest) = out)
    {fuel : Nat} (enough : cs.length ≤ fuel) :
    kind.readFields (fuel + 1) first seen a (cs ++ rest) = out := by
  induction fields generalizing fuel with
  | stop here => exact stop _ _ _ _ fuel here
  | known key between found new reads others ih =>
    have positive := key.length_pos
    simp only [List.length_append] at enough
    cases fuel with
    | zero => omega
    | succ fuel =>
      have field := readField_known found new between reads (others.ends ends)
      simp only [List.append_assoc, readFields_key key, field, Except.bind]
      exact ih (by omega)
  | unknown key between other value others ih =>
    have positive := key.length_pos
    simp only [List.length_append] at enough
    cases fuel with
    | zero => omega
    | succ fuel =>
      have field := readField_unknown other between value (others.ends ends)
      simp only [List.append_assoc, readFields_key key, field, Except.bind]
      exact ih (by omega)

/-- A record is read from an object as it is read from its fields. -/
theorem FieldsUntil.read (fields : FieldsUntil kind P true [] kind.start cs) {gap : List Char}
    (layout : IsGap gap) (rest : List Char) (out : Except Problem (α × List Char))
    (ends : ∀ seen a cs, P false seen a cs → Ends (cs ++ rest))
    (stop : ∀ first seen a cs fuel, P first seen a cs →
      kind.readFields (fuel + 1) first seen a (cs ++ rest) = out) :
    kind.read (gap ++ ('{' :: cs ++ rest)) = out := by
  have enough : cs.length ≤ (cs ++ rest).length := by simp
  rw [List.cons_append, Record.read, dropLayout_gap layout (c := '{') rfl]
  exact fields.run rest out ends stop enough

/-! ## Objects that are accepted -/

/-- The end of an object whose fields make the record complete. -/
inductive EndsAs (kind : Record α) (b : α) : Bool → List String → α → List Char → Prop
  | intro {first : Bool} {seen : List String} {a : α} {cs : List Char} : IsClose '}' cs →
      kind.complete seen a = .ok b → EndsAs kind b first seen a cs

/-- A record is read from an object whose fields lead to it. -/
theorem reads_object (fields : FieldsUntil kind (EndsAs kind b) true [] kind.start cs) :
    Reads kind.read ('{' :: cs) b := by
  refine ⟨⟨'{', cs, rfl, by decide⟩, fun gap rest layout _ => ?_⟩
  refine fields.read layout rest (.ok (b, rest)) ?_ ?_
  · rintro _ _ _ ⟨close, _⟩
    exact close.ends (.inr rfl) rest
  · rintro _ _ _ _ fuel ⟨⟨layout⟩, complete⟩
    simp only [readFields, List.append_assoc, List.singleton_append,
      dropLayout_gap layout (c := '}') rfl, complete]
    rfl

/-- A field is taken into a record: `only p` is the record that has those of its fields that `p`
tells, and the others at their defaults. -/
inductive TakesField (kind : Record α) (only : (String → Bool) → α) : String × Form → Prop
  | intro {name : String} {form : Form} {f : Field α} {set : α → α} :
      kind.fields.find? (fun g => g.name == name) = some f → AcceptsForm f.read form set →
      (∀ p, set (only p) = only fun n => n == name || p n) → TakesField kind only (name, form)

variable {only : (String → Bool) → α}

theorem TakesField.known {field : String × Form} (takes : TakesField kind only field) :
    field.1 ∈ kind.names := by
  obtain ⟨found, _, _⟩ := takes
  have same := List.find?_some found
  exact List.mem_map.mpr ⟨_, List.mem_of_find?_eq_some found, by simpa using same⟩

/-- A field is taken in, or is passed over since the record has no such field. -/
def TakesOrSkips (kind : Record α) (only : (String → Bool) → α) (field : String × Form) : Prop :=
  TakesField kind only field ∨ field.1 ∉ kind.names ∧ field.2 = IsValue

/-- Fields in any order lead to the end of the object. What has been taken in is told by the names
that have been seen, and these together with the names ahead are always the same ones. -/
theorem fieldsUntil_of_fieldsOf {names : List String} (distinct : names.Nodup)
    (whole : ∀ seen, seen.Perm names → kind.complete seen (only seen.contains) = .ok b)
    {all : List (String × Form)} (fields : FieldsOf first all cs)
    (parts : ∀ field ∈ all, TakesOrSkips kind only field)
    (ahead : ((all.map Prod.fst).filter (· ∈ kind.names) ++ seen).Perm names) :
    FieldsUntil kind (EndsAs kind b) first seen (only seen.contains) cs := by
  induction fields generalizing seen with
  | close first layout => exact .stop (.intro (.intro layout) (whole seen ahead))
  | @field first name form all key colon text more front between value others ih =>
    have later : ∀ field ∈ all, TakesOrSkips kind only field :=
      fun field member => parts field (.tail _ member)
    obtain takes | ⟨other, any⟩ := parts _ List.mem_cons_self
    · have known := takes.known
      obtain ⟨found, accepts, sets⟩ := takes
      rw [List.map_cons, List.filter_cons_of_pos (by simpa using known)] at ahead
      have next := List.perm_middle.trans ahead
      have new : name ∉ seen := by
        have both := next.nodup_iff.mpr distinct
        exact (List.nodup_cons.mp (List.nodup_append.mp both).2.1).1
      refine .known front between found new (accepts value) ?_
      have step : (name :: seen).contains = fun n => n == name || seen.contains n := by
        funext n
        exact List.contains_cons
      rw [sets, ← step]
      exact ih later next
    · rw [List.map_cons, List.filter_cons_of_neg (by simpa using other)] at ahead
      cases any
      exact .unknown front between other value (ih later ahead)

theorem complete_perm {names : List String} (same : seen.Perm names) (a : α) :
    kind.complete seen a = kind.complete names a := by
  simp only [complete, same.contains_eq]

/-- A record accepts its fields in any order, with others among them. -/
theorem acceptsForm_record {fields : List (String × Form)}
    (start : only (fun _ => false) = kind.start)
    (parts : ∀ field ∈ fields, TakesField kind only field)
    (distinct : (fields.map Prod.fst).Nodup)
    (complete : kind.complete (fields.map Prod.fst) b = .ok b)
    (whole : only (fields.map Prod.fst).contains = b) :
    AcceptsForm kind.read (Form.record kind.names fields) b := by
  rintro _ ⟨unknown, same, text⟩
  rename_i others all cs
  have eachPart : ∀ field ∈ all, TakesOrSkips kind only field := by
    intro field member
    obtain member | member := List.mem_append.mp (same.subset member)
    · exact .inl (parts field member)
    · obtain ⟨name, other, rfl⟩ := List.mem_map.mp member
      exact .inr ⟨unknown name other, rfl⟩
  -- the names that the record knows are those of its own fields
  have kept : ((all.map Prod.fst).filter (· ∈ kind.names)).Perm (fields.map Prod.fst) := by
    have known : (fields.map Prod.fst).filter (· ∈ kind.names) = fields.map Prod.fst := by
      rw [List.filter_eq_self]
      intro name member
      obtain ⟨field, isPart, rfl⟩ := List.mem_map.mp member
      simpa using (parts field isPart).known
    have none : others.filter (· ∈ kind.names) = [] := by
      rw [List.filter_eq_nil_iff]
      intro name member
      simpa using unknown name member
    have names := (same.map Prod.fst).filter (· ∈ kind.names)
    simpa [Function.comp_def, known, none] using names
  have ends : ∀ seen, seen.Perm (fields.map Prod.fst) →
      kind.complete seen (only seen.contains) = .ok b := by
    intro seen same
    have contains : seen.contains = (fields.map Prod.fst).contains :=
      funext fun _ => same.contains_eq
    rw [contains, whole, complete_perm same, complete]
  refine reads_object ?_
  rw [← start]
  exact fieldsUntil_of_fieldsOf distinct ends text eachPart (by simpa using kept)

theorem complete_of_required {names : List String}
    (required : ∀ f ∈ kind.fields, f.required = true → f.name ∈ names) (a : α) :
    kind.complete names a = .ok a := by
  have none : kind.fields.find? (fun f => f.required && !names.contains f.name) = none := by
    rw [List.find?_eq_none]
    intro f member missing
    simp only [Bool.and_eq_true, Bool.not_eq_true', List.contains_eq_mem, decide_eq_false_iff_not]
      at missing
    exact missing.2 (required f member missing.1)
  simp only [complete, none]

/-- A record accepts those of its fields that are given, provided that the required ones are. -/
theorem acceptsForm_given {fields : List (String × Form)} (all : fields.map Prod.fst = kind.names)
    (distinct : kind.names.Nodup) (start : only (fun _ => false) = kind.start)
    (parts : ∀ field ∈ fields, TakesField kind only field) (given : String → Bool)
    (required : ∀ f ∈ kind.fields, f.required = true → given f.name = true)
    (whole : only (fun n => given n && kind.names.contains n) = b) :
    AcceptsForm kind.read
      (Form.record kind.names (fields.filter fun field => given field.1)) b := by
  have names :
      (fields.filter fun field => given field.1).map Prod.fst = kind.names.filter given := by
    rw [← all]
    exact List.filter_map.symm
  refine acceptsForm_record start (fun field member => parts field (List.mem_of_mem_filter member))
    (names ▸ distinct.filter given) ?_ ?_
  · rw [names]
    refine complete_of_required (fun f member needed => ?_) b
    exact List.mem_filter.mpr ⟨List.mem_map_of_mem member, required f member needed⟩
  · rw [names, ← whole]
    congr 1
    funext n
    rw [Bool.eq_iff_iff]
    simp [List.mem_filter, and_comm]

/-! ## Objects that are refused -/

/-- The name of a field that has been seen before. -/
inductive Again (kind : Record α) (name : String) : Bool → List String → α → List Char → Prop
  | intro {first : Bool} {seen : List String} {a : α} {cs : List Char} : name ∈ kind.names →
      name ∈ seen → IsKey first name cs → Again kind name first seen a cs

/-- The beginning of an object: fields that are read, and then the name of one of them again. -/
inductive Repeats (kind : Record α) (name : String) : Form
  | intro {cs : List Char} : FieldsUntil kind (Again kind name) true [] kind.start cs →
      Repeats kind name ('{' :: cs)

/-- A record with a field that occurs twice is refused. -/
theorem refuses_repeats (repeats : Repeats kind name cs) :
    Refuses kind.read (.misfit (.duplicateField name)) cs := by
  obtain ⟨fields⟩ := repeats
  rename_i cs
  refine ⟨⟨'{', cs, rfl, by decide⟩, fun gap rest layout => ?_⟩
  refine fields.read layout rest (.error (.misfit (.duplicateField name))) ?_ ?_
  · rintro _ _ _ ⟨_, _, key⟩
    exact key.ends rest
  · rintro _ _ _ _ fuel ⟨known, again, key⟩
    rw [readFields_key key, readField_again known again]
    rfl

/-- The name of a new field and the beginning of its value. -/
inductive BeginsField (kind : Record α) (name : String) (inner : Form) :
    Bool → List String → α → List Char → Prop
  | intro {first : Bool} {seen : List String} {a : α} {key colon text : List Char} :
      IsKey first name key → IsColon colon → name ∉ seen → inner text →
      BeginsField kind name inner first seen a (key ++ (colon ++ text))

/-- The beginning of an object: fields that are read, and then the beginning of a new one. -/
inductive Begins (kind : Record α) (name : String) (inner : Form) : Form
  | intro {cs : List Char} : FieldsUntil kind (BeginsField kind name inner) true [] kind.start cs →
      Begins kind name inner ('{' :: cs)

/-- What is refused in the value of a field is refused in the object. -/
theorem refuses_begins {inner : Form} {p : Problem}
    (known : kind.fields.find? (fun g => g.name == name) = some f)
    (refuses : ∀ cs, inner cs → Refuses f.read p cs) (begins : Begins kind name inner cs) :
    Refuses kind.read p cs := by
  obtain ⟨fields⟩ := begins
  rename_i cs
  refine ⟨⟨'{', cs, rfl, by decide⟩, fun gap rest layout => ?_⟩
  refine fields.read layout rest (.error p) ?_ ?_
  · rintro _ _ _ ⟨key, _, _, _⟩
    rw [List.append_assoc]
    exact key.ends _
  · rintro _ _ _ _ fuel ⟨key, between, new, inside⟩
    rw [List.append_assoc, List.append_assoc, readFields_key key,
      readField_refuses known new between (refuses _ inside)]
    rfl

end Hotkeys.Json.Record
