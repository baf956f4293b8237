import Hotkeys.Proofs.Bridge.FreeId
import Hotkeys.Proofs.Script.Run
import Mathlib.Data.List.Nodup

/-!
# The objects that exist

Every object has a number and an identifier of its own, and the identifiers that are reserved are
those of the objects that exist. Both change only where an object is made or dropped.
-/

namespace Hotkeys.Script.Runtime

variable {φ : Type} {r r' : Runtime φ} {base : HotkeyId} {n : Nat} {o o' : HotkeyObject φ}

/-- The numbers and the identifiers of the objects. -/
def cards (r : Runtime φ) : List (Nat × HotkeyId) := r.objects.map fun o => (o.number, o.id)

theorem mem_cards (member : o ∈ r.objects) : (o.number, o.id) ∈ r.cards :=
  List.mem_map_of_mem member

/-- What every move keeps of the objects. -/
structure Orderly (base : HotkeyId) (r : Runtime φ) : Prop where
  idBase : r.idBase = base
  numbers : (r.cards.map Prod.fst).Nodup
  ids : (r.cards.map Prod.snd).Nodup
  older : ∀ c ∈ r.cards, c.1 < r.next
  above : ∀ c ∈ r.cards, base ≤ c.2
  reserved : r.reserved.Perm (r.cards.map Prod.snd)

/-- The handle of one object changes. -/
theorem mem_updateObject {v : Option Handle} :
    o ∈ (r.updateObject n fun o => { o with handle := v }).objects ↔
      ∃ o' ∈ r.objects, o'.number = n ∧ o = { o' with handle := v } ∨ o'.number ≠ n ∧ o = o' := by
  unfold updateObject
  rw [List.mem_map]
  refine exists_congr fun o' => and_congr_right fun _ => ?_
  by_cases same : o'.number = n <;> simpa [same] using eq_comm

/-- Objects keep their numbers and identifiers while their handles change. -/
@[simp] theorem cards_updateObject (r : Runtime φ) (n : Nat) (h : Option Handle) :
    (r.updateObject n fun o => { o with handle := h }).cards = r.cards := by
  simp only [cards, updateObject, List.map_map]
  refine List.map_congr_left ?_
  intro o _
  simp only [Function.comp_apply]
  split <;> rfl

namespace Orderly

theorem congr (orderly : r.Orderly base) (idBase : r'.idBase = r.idBase)
    (reserved : r'.reserved = r.reserved) (cards : r'.cards = r.cards) (next : r'.next = r.next) :
    r'.Orderly base where
  idBase := idBase.trans orderly.idBase
  numbers := cards ▸ orderly.numbers
  ids := cards ▸ orderly.ids
  older := by
    rw [cards, next]
    exact orderly.older
  above := cards ▸ orderly.above
  reserved := by
    rw [reserved, cards]
    exact orderly.reserved

theorem eq_of_number (orderly : r.Orderly base) (member : o ∈ r.objects) (member' : o' ∈ r.objects)
    (same : o.number = o'.number) : o = o' := by
  have numbers := orderly.numbers
  rw [cards, List.map_map] at numbers
  exact List.inj_on_of_nodup_map numbers member member' same

theorem eq_of_id (orderly : r.Orderly base) (member : o ∈ r.objects) (member' : o' ∈ r.objects)
    (same : o.id = o'.id) : o = o' := by
  have ids := orderly.ids
  rw [cards, List.map_map] at ids
  exact List.inj_on_of_nodup_map ids member member' same

/-- An object is found by its number. -/
theorem object?_eq_some_iff (orderly : r.Orderly base) :
    r.object? n = some o ↔ o ∈ r.objects ∧ o.number = n := by
  refine ⟨object?_some, ?_⟩
  rintro ⟨member, rfl⟩
  cases found : r.object? o.number with
  | none => simpa using List.find?_eq_none.mp found o member
  | some o' =>
    obtain ⟨member', same⟩ := object?_some found
    rw [orderly.eq_of_number member' member same]

/-- A new object takes an identifier that no other one has. -/
theorem insert (orderly : r.Orderly base) {id : HotkeyId} (found : freeId r.isTaken base = some id)
    (chord : Chord) (handler : φ) : (r.insert id chord handler).Orderly base := by
  obtain ⟨lower, free, -⟩ := freeId_eq_some_iff.mp found
  have fresh : id ∉ r.cards.map Prod.snd := by
    intro taken
    have reserved : id ∈ r.reserved := orderly.reserved.mem_iff.mpr taken
    simp [isTaken, reserved] at free
  have new : r.next ∉ r.cards.map Prod.fst := by
    intro taken
    obtain ⟨c, member, same⟩ := List.mem_map.mp taken
    exact absurd same (Nat.ne_of_lt (orderly.older c member))
  have grown : (r.insert id chord handler).cards = r.cards ++ [(r.next, id)] := by
    simp [cards, Runtime.insert]
  refine ⟨orderly.idBase, ?_, ?_, ?_, ?_, ?_⟩
  · rw [grown, List.map_append]
    exact List.nodup_append_comm.mp (List.nodup_cons.mpr ⟨new, orderly.numbers⟩)
  · rw [grown, List.map_append]
    exact List.nodup_append_comm.mp (List.nodup_cons.mpr ⟨fresh, orderly.ids⟩)
  · rw [grown]
    intro c member
    cases List.mem_append.mp member with
    | inl old => exact Nat.lt_succ_of_lt (orderly.older c old)
    | inr last =>
      cases List.mem_singleton.mp last
      exact Nat.lt_succ_self _
  · rw [grown]
    intro c member
    cases List.mem_append.mp member with
    | inl old => exact orderly.above c old
    | inr last =>
      cases List.mem_singleton.mp last
      exact lower
  · rw [grown, List.map_append]
    exact (orderly.reserved.cons id).trans (List.perm_append_singleton id _).symm

/-- The new object is found by its number. -/
theorem object?_insert (orderly : r.Orderly base) {id : HotkeyId}
    (found : freeId r.isTaken base = some id) (chord : Chord) (handler : φ) :
    (r.insert id chord handler).object? r.next =
      some { number := r.next, id, chord, handler } :=
  (orderly.insert found chord handler).object?_eq_some_iff.mpr ⟨by simp [Runtime.insert], rfl⟩

/-- A dropped object gives back the identifier that nobody else has. -/
theorem remove (orderly : r.Orderly base) (member : o ∈ r.objects) :
    (r.remove o).Orderly base := by
  have card : (o.number, o.id) ∈ r.cards := mem_cards member
  have shrunk : (r.remove o).cards = r.cards.filter fun c => c.1 != o.number := by
    simp only [cards, Runtime.remove, List.filter_map, Function.comp_def]
  have sublist : (r.remove o).cards.Sublist r.cards := shrunk ▸ List.filter_sublist
  have same : (r.cards.map Prod.snd).filter (· != o.id) =
      (r.cards.filter fun c => c.1 != o.number).map Prod.snd := by
    rw [List.filter_map]
    congr 1
    refine List.filter_congr ?_
    intro c other
    rw [Bool.eq_iff_iff]
    simp only [Function.comp_apply, bne_iff_ne, ne_eq, not_iff_not]
    constructor
    · intro same
      exact congrArg Prod.fst (List.inj_on_of_nodup_map orderly.ids other card same)
    · intro same
      exact congrArg Prod.snd (List.inj_on_of_nodup_map orderly.numbers other card same)
  refine ⟨orderly.idBase, orderly.numbers.sublist (sublist.map _),
    orderly.ids.sublist (sublist.map _), fun c kept => orderly.older c (sublist.subset kept),
    fun c kept => orderly.above c (sublist.subset kept), ?_⟩
  -- one side takes the identifier out and the other one the number
  rw [shrunk, ← same]
  exact orderly.reserved.filter _

theorem enable (orderly : r.Orderly base) (env : Conditions) (n : Nat) :
    (r.enable env n).2.Orderly base := by
  obtain ⟨same, -⟩ | ⟨_, -, -, -, _, bridge, -, ⟨h, -, done⟩ | ⟨-, _, failed⟩⟩ :=
    r.enable_cases env n
  · rwa [same]
  · rw [done]
    exact orderly.congr rfl rfl (cards_updateObject { r with bridge } n (some h)) rfl
  · rw [failed]
    exact orderly.congr rfl rfl rfl rfl

theorem disable (orderly : r.Orderly base) (env : Conditions) (n : Nat) :
    (r.disable env n).Orderly base := by
  unfold Runtime.disable
  split
  · exact orderly
  · exact orderly.congr rfl rfl (cards_updateObject r n none) rfl

theorem drop (orderly : r.Orderly base) (env : Conditions) (n : Nat) :
    (r.dropObject env n).Orderly base := by
  cases found : r.object? n with
  | none => simpa [Runtime.dropObject, found] using orderly
  | some o =>
    rw [dropObject_eq found]
    exact (orderly.remove (object?_some found).1).congr rfl rfl rfl rfl

theorem take (orderly : r.Orderly base) (m : Move φ) : (r.take m).Orderly base := by
  cases m with
  | create chord handler =>
    simp only [Runtime.take, create_eq, orderly.idBase]
    cases found : freeId r.isTaken base with
    | none => exact orderly
    | some id => exact orderly.insert found chord handler
  | enable env n => exact orderly.enable env n
  | disable env n => exact orderly.disable env n
  | drop env n => exact orderly.drop env n
  | bridge m =>
    simp only [Runtime.take]
    split
    · exact orderly.congr rfl rfl rfl rfl
    · exact orderly
  | letGo => exact orderly.congr rfl rfl rfl rfl
  | close env =>
    simp only [Runtime.take]
    split
    · exact orderly
    · exact orderly.congr rfl rfl rfl rfl
  | listen listeners => exact orderly.congr rfl rfl rfl rfl

end Orderly

theorem start_orderly (backend : Backend) (strict : Bool) (base : HotkeyId)
    (moves : List (Move φ)) : ((start backend strict base).run moves).Orderly base := by
  refine run_keeps (fun _ m orderly => orderly.take m) ?_ moves
  exact ⟨rfl, List.nodup_nil, List.nodup_nil, by simp [cards, start], by simp [cards, start], .nil⟩

end Hotkeys.Script.Runtime
