import Hotkeys.Proofs.Config.Forms

/-!
# Configurations that are told in part

A field that is left out keeps its default, on each level of a configuration, and fields that the
configuration does not know change nothing. A field that is met again in the same object is an
error, and nothing behind it is looked at.
-/

namespace Hotkeys

open Json

/-- The beginning of a list of bindings, up to a field that its object has already had. -/
inductive Bindings.Repeats (name : String) : Form
  | here {cs : List Char} : record.Repeats name cs → Repeats name cs
  | binding {cs : List Char} :
      record.Begins "bindings" (BeginsList Binding.record.read (Binding.record.Repeats name)) cs →
      Repeats name cs

theorem Bindings.refuses_repeats {name : String} {cs : List Char} (repeats : Repeats name cs) :
    Refuses record.read (.misfit (.duplicateField name)) cs := by
  cases repeats with
  | here repeats => exact Record.refuses_repeats repeats
  | binding begins =>
    refine Record.refuses_begins rfl (fun _ inner => ?_) begins
    exact (refuses_list (fun _ => Record.refuses_repeats) inner).map fun list (_ : Bindings) =>
      Bindings.mk list

namespace Config

/-- The beginning of a configuration, up to a field that its object has already had. All that stands
in front of it could be read: fields with values that are taken, and others with any values. -/
inductive Repeats (name : String) : Form
  | here {cs : List Char} : record.Repeats name cs → Repeats name cs
  | script {cs : List Char} : record.Begins "script" (Script.record.Repeats name) cs →
      Repeats name cs
  | logging {cs : List Char} : record.Begins "logging" (Logging.record.Repeats name) cs →
      Repeats name cs
  | hotkeys {cs : List Char} : record.Begins "hotkeys" (Bindings.Repeats name) cs → Repeats name cs

/-- A field that occurs twice is refused, on whichever level it is. -/
theorem refuses_repeats {name : String} {cs : List Char} (repeats : Repeats name cs) :
    Refuses record.read (.misfit (.duplicateField name)) cs := by
  cases repeats with
  | here repeats => exact Record.refuses_repeats repeats
  | script begins =>
    exact Record.refuses_begins rfl (fun _ inner => (Record.refuses_repeats inner).map
      fun script (c : Config) => { c with script }) begins
  | logging begins =>
    exact Record.refuses_begins rfl (fun _ inner => (Record.refuses_repeats inner).map
      fun logging (c : Config) => { c with logging }) begins
  | hotkeys begins =>
    exact Record.refuses_begins rfl (fun _ inner => (Bindings.refuses_repeats inner).map
      fun hotkeys (c : Config) => { c with hotkeys }) begins

/-- A text that tells a configuration in part is read as this configuration with the rest at its
defaults, whatever the order of its fields and whatever else it holds. A text in which a field is
met again in the same object is refused for this field. -/
theorem parse_partial :
    (∀ (c : Config) (given : Given) ⦃gap cs gap' : List Char⦄, IsGap gap → c.form given cs →
      IsGap gap' → parse (String.ofList (gap ++ (cs ++ gap'))) = .ok (c.only given)) ∧
    ∀ (name : String) ⦃gap cs : List Char⦄ (rest : List Char), IsGap gap → Repeats name cs →
      parse (String.ofList (gap ++ (cs ++ rest))) = .error (.misfit (.duplicateField name)) := by
  refine ⟨fun c given gap cs gap' layout text layout' => parse_form layout text layout', ?_⟩
  intro name gap cs rest layout repeats
  exact (refuses_repeats repeats).whole layout rest

theorem parse_partial_strict :
    parse "\x7b\"x\":-0.5, \"strict\":false\x7d" = .ok { strict := false } ∧
      parse "\x7b\"strict\":true, \"strict\":false\x7d" =
        .error (.misfit (.duplicateField "strict")) := by
  have colon : IsColon [':'] := .intro isGap_nil isGap_nil
  have firstKey (name : String) : IsKey true name (quote name.toList) :=
    isKey_quote (.first isGap_nil) name
  have nextKey (name : String) : IsKey false name (',' :: ' ' :: quote name.toList) :=
    isKey_quote (.next isGap_nil isGap_space) name
  constructor
  · have five : IsDigits ['5'] := ⟨by decide, List.forall_mem_singleton.mpr rfl⟩
    have half : IsMagnitude (['0'] ++ (['.', '5'] ++ [])) := .intro .zero (.point five) .none
    have value : IsValue ['-', '0', '.', '5'] := .negative half
    have fields : FieldsOf true [("x", IsValue), ("strict", Spells (.bool false))] _ :=
      .field (firstKey "x") colon value (.field (nextKey "strict") colon .false
        (.close false isGap_nil))
    have other : ∀ name ∈ ["x"], name ∉ record.names := by decide
    have text : form { strict := false } { config := (· == "strict") } _ :=
      .intro other (.swap _ _ _) fields
    have read := parse_partial.1 _ _ isGap_nil text isGap_nil
    exact (congrArg parse (by decide +kernel)).trans read
  · have reads := (accepts_bool true).form.map (fun strict (c : Config) => { c with strict }) .true
    have fields : record.FieldsUntil (Record.Again record "strict") true [] record.start _ :=
      .known (firstKey "strict") colon rfl (by decide) reads
        (.stop (.intro (by decide) (by decide) (nextKey "strict")))
    have read := parse_partial.2 "strict" [':', 'f', 'a', 'l', 's', 'e', '}'] isGap_nil
      (.here (.intro fields))
    exact (congrArg parse (by decide +kernel)).trans read

end Config

end Hotkeys
