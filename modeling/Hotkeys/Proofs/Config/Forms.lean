import Hotkeys.Config.Basic
import Hotkeys.Proofs.Chord.RoundTrip
import Hotkeys.Proofs.Json.Records

/-!
# The texts that a configuration may be read from

A text of a configuration may leave fields out on each of its levels, may have those that it gives
in any order, and may have others among them. What is read is the configuration with every field
that is left out at its default. A configuration is read back from the document that it is written
as, whatever layout the text of the document has.
-/

namespace Hotkeys

open Json

/-! ## Bindings -/

/-- A combination is read back from its document. -/
theorem Chord.accepts_json (c : Chord) : Accepts read c.json c := by
  have parsed : (parse c.text).mapError Error.message = .ok c := by rw [parse_text]; rfl
  exact (accepts_text "a string" c.text).refine parsed

namespace Binding

def fields (b : Binding) : List (String × Form) :=
  [("id", Spells (.word b.id)), ("keys", Spells b.chord.json),
    ("label", Spells (.ofOption .string b.label))]

/-- The texts of a binding. Its label may be left out, and there is no field for it if it has none;
the other fields cannot be left out. -/
def form (b : Binding) (label : Bool) : Form :=
  .record record.names (b.fields.filter fun field => field.1 != "label" || label && b.label.isSome)

/-- What is read of a binding. -/
def only (b : Binding) (label : Bool) : Binding :=
  { b with label := if label then b.label else none }

/-- The binding with some of its fields, and the others where reading starts. -/
def part (b : Binding) (p : String → Bool) : Binding where
  id := if p "id" then b.id else record.start.id
  chord := if p "keys" then b.chord else record.start.chord
  label := if p "label" then b.label else record.start.label

theorem takesField (b : Binding) : ∀ field ∈ b.fields, Record.TakesField record b.part field := by
  have idField := (accepts_word b.id).form.map fun id (b : Binding) => { b with id }
  have chordField := b.chord.accepts_json.form.map fun chord (b : Binding) => { b with chord }
  have labelField := (accepts_optionText "a string" b.label).form.map fun label (b : Binding) =>
    { b with label }
  simp only [fields, List.forall_mem_cons, List.not_mem_nil, false_imp_iff, implies_true, and_true]
  refine ⟨.intro rfl idField fun p => ?_, .intro rfl chordField fun p => ?_,
    .intro rfl labelField fun p => ?_⟩
  all_goals simp [part]

/-- A binding is read from every text of it. -/
theorem acceptsForm (b : Binding) (label : Bool) :
    AcceptsForm record.read (b.form label) (b.only label) := by
  refine Record.acceptsForm_given rfl (by decide) rfl b.takesField
    (fun name => name != "label" || label && b.label.isSome) ?_ ?_
  · simp [record]
  · obtain ⟨id, chord, label?⟩ := b
    cases label? <;> cases label <;> rfl

/-- With its label, a binding has the texts of its document. -/
theorem covers (b : Binding) : Covers (b.form true) b.json := by
  have idField : CoversField ("id", Spells (.word b.id)) ("id", .word b.id) :=
    ⟨rfl, covers_spells _⟩
  have chordField : CoversField ("keys", Spells b.chord.json) ("keys", b.chord.json) :=
    ⟨rfl, covers_spells _⟩
  refine covers_record ?_ record.names
  obtain ⟨id, chord, label⟩ := b
  cases label with
  | none => exact .cons idField (.cons chordField .nil)
  | some label => exact .cons idField (.cons chordField (.cons ⟨rfl, covers_spells _⟩ .nil))

end Binding

/-! ## Lists of bindings -/

namespace Bindings

def fields (bs : Bindings) (label : Nat → Bool) : List (String × Form) :=
  [("bindings", Form.list (bs.list.mapIdx fun i b => b.form (label i)))]

/-- The texts of a list of bindings, with the labels of those whose places are told. -/
def form (bs : Bindings) (given : String → Bool) (label : Nat → Bool) : Form :=
  .record record.names ((bs.fields label).filter fun field => given field.1)

/-- What is read of a list of bindings. -/
def only (bs : Bindings) (given : String → Bool) (label : Nat → Bool) : Bindings where
  list := if given "bindings" then bs.list.mapIdx fun i b => b.only (label i) else
    ({} : Bindings).list

theorem takesField (bs : Bindings) (label : Nat → Bool) : ∀ field ∈ bs.fields label,
    Record.TakesField record (fun p => bs.only p label) field := by
  have all : List.Forall₂ (AcceptsForm Binding.record.read)
      (bs.list.mapIdx fun i b => b.form (label i))
      (bs.list.mapIdx fun i b => b.only (label i)) := by
    rw [List.forall₂_iff_get]
    simp [Binding.acceptsForm]
  have listField := (acceptsForm_list all).map fun list (_ : Bindings) => Bindings.mk list
  simp only [fields, List.forall_mem_cons, List.not_mem_nil, false_imp_iff, implies_true, and_true]
  exact .intro rfl listField fun p => by simp [only]

/-- A list of bindings is read from every text of it. -/
theorem acceptsForm (bs : Bindings) (given : String → Bool) (label : Nat → Bool) :
    AcceptsForm record.read (bs.form given label) (bs.only given label) := by
  refine Record.acceptsForm_given rfl (by decide) rfl (bs.takesField label) given ?_ ?_
  · simp [record]
  · simp [only, Record.names, record]

theorem covers (bs : Bindings) : Covers (bs.form (fun _ => true) fun _ => true) bs.json := by
  have all : List.Forall₂ Covers (bs.list.mapIdx fun _ b => b.form true)
      (bs.list.map Binding.json) := by
    rw [List.forall₂_iff_get]
    simp [Binding.covers]
  exact covers_record (.cons ⟨rfl, covers_list all⟩ .nil) record.names

end Bindings

/-! ## Configurations -/

theorem Backend.Kind.accepts_json (k : Kind) : Accepts read k.json k := by
  have known : (all.map fun k => (k.name, k)).lookup k.name = some k := by cases k <;> rfl
  exact accepts_variant known

namespace Config

namespace Script

def fields (s : Script) : List (String × Form) :=
  [("path", Spells (.ofOption .string s.path)), ("script_id_base", Spells (.word s.idBase))]

def form (s : Script) (given : String → Bool) : Form :=
  .record record.names (s.fields.filter fun field => given field.1)

def only (s : Script) (given : String → Bool) : Script where
  path := if given "path" then s.path else ({} : Script).path
  idBase := if given "script_id_base" then s.idBase else ({} : Script).idBase

theorem takesField (s : Script) : ∀ field ∈ s.fields, Record.TakesField record s.only field := by
  have pathField := (accepts_optionText "path string" s.path).form.map fun path (s : Script) =>
    { s with path }
  have baseField := (accepts_word s.idBase).form.map fun idBase (s : Script) => { s with idBase }
  simp only [fields, List.forall_mem_cons, List.not_mem_nil, false_imp_iff, implies_true, and_true]
  refine ⟨.intro rfl pathField fun p => ?_, .intro rfl baseField fun p => ?_⟩
  all_goals simp [only]

/-- The part about scripts is read from every text of it. -/
theorem acceptsForm (s : Script) (given : String → Bool) :
    AcceptsForm record.read (s.form given) (s.only given) := by
  refine Record.acceptsForm_given rfl (by decide) rfl s.takesField given ?_ ?_
  · simp [record]
  · simp [only, Record.names, record]

theorem covers (s : Script) : Covers (s.form fun _ => true) s.json :=
  covers_record (.cons ⟨rfl, covers_spells _⟩ (.cons ⟨rfl, covers_spells _⟩ .nil)) record.names

end Script

namespace Logging

def fields (l : Logging) : List (String × Form) := [("filter", Spells (.string l.filter))]

def form (l : Logging) (given : String → Bool) : Form :=
  .record record.names (l.fields.filter fun field => given field.1)

def only (l : Logging) (given : String → Bool) : Logging where
  filter := if given "filter" then l.filter else ({} : Logging).filter

theorem takesField (l : Logging) : ∀ field ∈ l.fields, Record.TakesField record l.only field := by
  have filterField := (accepts_text "a string" l.filter).form.map fun filter (_ : Logging) =>
    Logging.mk filter
  simp only [fields, List.forall_mem_cons, List.not_mem_nil, false_imp_iff, implies_true, and_true]
  exact .intro rfl filterField fun p => by simp [only]

/-- The part about the log is read from every text of it. -/
theorem acceptsForm (l : Logging) (given : String → Bool) :
    AcceptsForm record.read (l.form given) (l.only given) := by
  refine Record.acceptsForm_given rfl (by decide) rfl l.takesField given ?_ ?_
  · simp [record]
  · simp [only, Record.names, record]

theorem covers (l : Logging) : Covers (l.form fun _ => true) l.json :=
  covers_record (.cons ⟨rfl, covers_spells _⟩ .nil) record.names

end Logging

/-- What a text gives of a configuration: the names of the fields that each of its objects has, and
the places of the bindings whose label it has. -/
structure Given where
  config : String → Bool := fun _ => true
  script : String → Bool := fun _ => true
  logging : String → Bool := fun _ => true
  hotkeys : String → Bool := fun _ => true
  label : Nat → Bool := fun _ => true

def fields (c : Config) (given : Given) : List (String × Form) :=
  [("backend", Spells c.backend.json), ("strict", Spells (.bool c.strict)),
    ("script", c.script.form given.script), ("logging", c.logging.form given.logging),
    ("hotkeys", c.hotkeys.form given.hotkeys given.label)]

/-- The texts of a configuration that give what is told, with the fields of each object in any
order, and with any values under names that the configuration does not know. -/
def form (c : Config) (given : Given) : Form :=
  .record record.names ((c.fields given).filter fun field => given.config field.1)

/-- The configuration with every field that is not given at its default. -/
def only (c : Config) (given : Given) : Config where
  backend := if given.config "backend" then c.backend else ({} : Config).backend
  strict := if given.config "strict" then c.strict else ({} : Config).strict
  script := if given.config "script" then c.script.only given.script else ({} : Config).script
  logging := if given.config "logging" then c.logging.only given.logging else ({} : Config).logging
  hotkeys := if given.config "hotkeys" then c.hotkeys.only given.hotkeys given.label else
    ({} : Config).hotkeys

theorem takesField (c : Config) (given : Given) : ∀ field ∈ c.fields given,
    Record.TakesField record (fun p => c.only { given with config := p }) field := by
  have backendField := c.backend.accepts_json.form.map fun backend (c : Config) =>
    { c with backend }
  have strictField := (accepts_bool c.strict).form.map fun strict (c : Config) => { c with strict }
  have scriptField := (c.script.acceptsForm given.script).map fun script (c : Config) =>
    { c with script }
  have loggingField := (c.logging.acceptsForm given.logging).map fun logging (c : Config) =>
    { c with logging }
  have hotkeysField := (c.hotkeys.acceptsForm given.hotkeys given.label).map
    fun hotkeys (c : Config) => { c with hotkeys }
  simp only [fields, List.forall_mem_cons, List.not_mem_nil, false_imp_iff, implies_true, and_true]
  refine ⟨.intro rfl backendField fun p => ?_, .intro rfl strictField fun p => ?_,
    .intro rfl scriptField fun p => ?_, .intro rfl loggingField fun p => ?_,
    .intro rfl hotkeysField fun p => ?_⟩
  all_goals simp [only]

/-- A configuration is read from every text of it. -/
theorem acceptsForm (c : Config) (given : Given) :
    AcceptsForm record.read (c.form given) (c.only given) := by
  refine Record.acceptsForm_given rfl (by decide) rfl (c.takesField given) given.config ?_ ?_
  · simp [record]
  · simp [only, Record.names, record]

/-- The document of a configuration gives all of it. -/
theorem covers (c : Config) : Covers (c.form {}) c.json :=
  covers_record (.cons ⟨rfl, covers_spells _⟩ (.cons ⟨rfl, covers_spells _⟩
    (.cons ⟨rfl, c.script.covers⟩ (.cons ⟨rfl, c.logging.covers⟩
      (.cons ⟨rfl, c.hotkeys.covers⟩ .nil))))) record.names

/-- Nothing is at its default if nothing has been left out. -/
theorem only_all (c : Config) : c.only {} = c := by
  have bindings : (c.hotkeys.list.mapIdx fun _ b => b.only true) = c.hotkeys.list :=
    List.ext_getElem (by simp) (by simp [Binding.only])
  simp [only, Script.only, Logging.only, Bindings.only, bindings]

/-! ## The whole text -/

/-- A configuration is read from every text that has its form, with layout around it. -/
theorem parse_form {c : Config} {given : Given} {gap cs gap' : List Char} (layout : IsGap gap)
    (text : c.form given cs) (layout' : IsGap gap') :
    parse (String.ofList (gap ++ (cs ++ gap'))) = .ok (c.only given) :=
  (c.acceptsForm given text).whole layout layout'

/-! ## Written configurations -/

/-- A configuration is read back from its document, whatever the layout. -/
theorem parse_of_spells {c : Config} {cs : List Char} (spelt : Spells c.json cs) :
    parse (String.ofList cs) = .ok c := by
  have read := parse_form isGap_nil (c.covers spelt) isGap_nil
  rwa [List.nil_append, List.append_nil, only_all] at read

/-- Every configuration is read back from its compact and from its pretty text. -/
theorem parse_written (c : Config) :
    parse c.json.compactText = .ok c ∧ parse c.json.prettyText = .ok c :=
  ⟨parse_of_spells (spells_compact c.json), parse_of_spells (spells_prettyAt 0 c.json)⟩

end Config

end Hotkeys
