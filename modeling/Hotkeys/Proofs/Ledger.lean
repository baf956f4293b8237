import Mathlib.Data.List.Induction

/-!
# Ledgers

A component is given one call after the other. Its ledger has the calls with their answers, the
earliest first. A fact stands in a ledger if some entry has brought it about and none since has
undone it; the last entry alone decides whether it goes on to stand.
-/

namespace Hotkeys

variable {α σ κ : Type}

/-- It has happened and has not been undone since. -/
def Stands (happened undone : α → Prop) (entries : List α) : Prop :=
  ∃ earlier entry later, entries = earlier ++ entry :: later ∧ happened entry ∧
    ∀ e ∈ later, ¬ undone e

section Stands

variable {happened undone : α → Prop} {entries : List α}

theorem not_stands_nil : ¬ Stands happened undone [] := by
  rintro ⟨earlier, entry, later, split, -⟩
  simp at split

/-- What stands after one more entry. -/
theorem stands_concat {last : α} :
    Stands happened undone (entries ++ [last]) ↔
      happened last ∨ Stands happened undone entries ∧ ¬ undone last := by
  constructor
  · rintro ⟨earlier, entry, later, split, did, kept⟩
    cases later using List.reverseRecOn with
    | nil =>
      obtain ⟨-, same⟩ := List.append_inj' split rfl
      cases same
      exact .inl did
    | append_singleton later final _ =>
      rw [← List.cons_append, ← List.append_assoc] at split
      obtain ⟨rfl, same⟩ := List.append_inj' split rfl
      cases same
      refine .inr ⟨⟨earlier, entry, later, rfl, did, ?_⟩, kept last (by simp)⟩
      intro e member
      exact kept e (List.mem_append_left _ member)
  · rintro (did | ⟨⟨earlier, entry, later, rfl, did, kept⟩, untouched⟩)
    · exact ⟨entries, last, [], rfl, did, by simp⟩
    · refine ⟨earlier, entry, later ++ [last], by simp, did, ?_⟩
      intro e member
      cases List.mem_append.mp member with
      | inl before => exact kept e before
      | inr new => exact List.mem_singleton.mp new ▸ untouched

theorem stands_exists {β : Type} {happened : β → α → Prop} :
    Stands (fun e => ∃ b, happened b e) undone entries ↔
      ∃ b, Stands (happened b) undone entries := by
  constructor
  · rintro ⟨earlier, entry, later, split, ⟨b, did⟩, kept⟩
    exact ⟨b, earlier, entry, later, split, did, kept⟩
  · rintro ⟨b, earlier, entry, later, split, did, kept⟩
    exact ⟨earlier, entry, later, split, ⟨b, did⟩, kept⟩

end Stands

namespace Ledger

variable (step : σ → κ → α × σ) (s : σ)

/-- What the component has become by the calls. -/
def state (s : σ) : List κ → σ
  | [] => s
  | c :: rest => state (step s c).2 rest

/-- The calls with their answers. -/
def entries (s : σ) : List κ → List (κ × α)
  | [] => []
  | c :: rest => (c, (step s c).1) :: entries (step s c).2 rest

theorem state_concat (calls : List κ) (c : κ) :
    state step s (calls ++ [c]) = (step (state step s calls) c).2 := by
  induction calls generalizing s with
  | nil => rfl
  | cons first rest ih => exact ih _

theorem entries_concat (calls : List κ) (c : κ) :
    entries step s (calls ++ [c]) =
      entries step s calls ++ [(c, (step (state step s calls) c).1)] := by
  induction calls generalizing s with
  | nil => rfl
  | cons first rest ih => exact congrArg (_ :: ·) (ih _)

variable {step s}

/-- What holds of the component and its empty ledger, and is kept by each call together with the
entry that the call makes, holds after all calls. -/
theorem keeps {P : σ → List (κ × α) → Prop} (start : P s [])
    (kept : ∀ s' before c, P s' before → P (step s' c).2 (before ++ [(c, (step s' c).1)]))
    (calls : List κ) : P (state step s calls) (entries step s calls) := by
  induction calls using List.reverseRecOn with
  | nil => exact start
  | append_singleton calls c ih =>
    rw [state_concat, entries_concat]
    exact kept _ _ c ih

end Ledger

end Hotkeys
