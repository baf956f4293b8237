import Hotkeys.Proofs.Bridge.Nested
import Mathlib.Data.Finset.Card
import Mathlib.Data.List.ReduceOption
import Mathlib.Order.Interval.Finset.Nat

/-!
# The cells that are held

A cell is held by a slot or by a dispatch under way. `Tidy` is what every change keeps of them:
above all, the counter is the number of cells that are held. So a cell is given back as soon as
nothing holds it any more, not before, and only once.

## Implementation notes

In the middle of a change a cell may be loose: it has left its slot or its dispatch, and nobody
has looked yet whether something else holds it. `Tidy` counts the loose cells with the held ones,
and `reclaim` settles one loose cell after the other.
-/

namespace Hotkeys.Bridge

variable {H : Type} {b b' : Bridge H} {c : Cell H} {loose : List (Cell H)} {r : Bool}

def tokens (cells : List (Cell H)) : Finset Nat := (cells.map (·.token)).toFinset

/-- The cells that slots and dispatches hold. A cell may be held more than once. -/
def cells (b : Bridge H) : List (Cell H) := b.slots.values ++ b.running.reduceOption

/-- The cells in the slots. -/
def bound (b : Bridge H) : Finset Nat := tokens b.slots.values

/-- The cells that the dispatches under way hold. -/
def inFlight (b : Bridge H) : Finset Nat := tokens b.running.reduceOption

/-- The cells that have left their slots and are still held by dispatches under way. -/
def orphans (b : Bridge H) : Finset Nat := b.inFlight \ b.bound

/-- The cells that have been stored and are not held any more. -/
def spent (b : Bridge H) : Finset Nat := Finset.Ico 1 b.nextToken \ tokens b.cells

theorem mem_tokens {n : Nat} {cells : List (Cell H)} :
    n ∈ tokens cells ↔ ∃ c ∈ cells, c.token = n := by
  simp [tokens]

theorem tokens_append (cells more : List (Cell H)) :
    tokens (cells ++ more) = tokens cells ∪ tokens more := by
  simp [tokens]

theorem tokens_cons (c : Cell H) (cells : List (Cell H)) :
    tokens (c :: cells) = insert c.token (tokens cells) := by
  simp [tokens]

/-- The cells of a bridge are those in slots and those that dispatches hold. -/
theorem mem_cells : c ∈ b.cells ↔ (∃ id, b.slots.get? id = some c) ∨ some c ∈ b.running := by
  simp [cells, Table.mem_values_iff, List.reduceOption_mem_iff]

theorem tokens_cells (b : Bridge H) : tokens b.cells = b.bound ∪ b.inFlight :=
  tokens_append ..

/-! ## Tidiness -/

/-- What every change keeps of the cells: a cell is in the slot of its own identifier, its token
tells it from all others, and the counter counts each cell once. -/
structure Tidy (loose : List (Cell H)) (b : Bridge H) : Prop where
  filed : ∀ {id c}, b.slots.get? id = some c → c.id = id
  positive : 1 ≤ b.nextToken
  issued : ∀ c ∈ b.cells ++ loose, c.token ∈ Finset.Ico 1 b.nextToken
  unique : ∀ c ∈ b.cells ++ loose, ∀ c' ∈ b.cells ++ loose, c.token = c'.token → c = c'
  nodup : loose.Nodup
  counted : b.counter = (tokens (b.cells ++ loose)).card

namespace Tidy

/-- Moving cells between slots, dispatches and the loose ones keeps a bridge tidy. -/
theorem transfer {loose' : List (Cell H)} (tidy : b.Tidy loose)
    (filed : ∀ {id c}, b'.slots.get? id = some c → c.id = id) (nodup : loose'.Nodup)
    (nextToken : b'.nextToken = b.nextToken) (counter : b'.counter = b.counter)
    (same : ∀ c, c ∈ b'.cells ++ loose' ↔ c ∈ b.cells ++ loose) : b'.Tidy loose' := by
  refine ⟨filed, nextToken ▸ tidy.positive, ?_, ?_, nodup, ?_⟩
  · intro c held
    rw [nextToken]
    exact tidy.issued c ((same c).mp held)
  · intro c held c' held'
    exact tidy.unique c ((same c).mp held) c' ((same c').mp held')
  · have tokens_eq : tokens (b'.cells ++ loose') = tokens (b.cells ++ loose) := by
      ext n
      simp only [mem_tokens, same]
    rw [counter, tokens_eq]
    exact tidy.counted

/-- To look into the one slot that the cell was stored for is enough. -/
theorem holds_iff (tidy : b.Tidy (c :: loose)) : b.holds c = true ↔ c ∈ b.cells := by
  have same : ∀ c' ∈ b.cells, c'.token = c.token → c' = c := fun c' held =>
    tidy.unique c' (List.mem_append_left _ held) c
      (List.mem_append_right _ List.mem_cons_self)
  simp only [holds, Bool.or_eq_true, List.any_eq_true, Option.any_eq_true, beq_iff_eq]
  constructor
  · rintro (⟨c', slot, token⟩ | ⟨frame, member, c', rfl, token⟩)
    · have held : c' ∈ b.cells := mem_cells.mpr (.inl ⟨c.id, slot⟩)
      exact same c' held token ▸ held
    · have held : c' ∈ b.cells := mem_cells.mpr (.inr member)
      exact same c' held token ▸ held
  · intro held
    cases mem_cells.mp held with
    | inl slot =>
      obtain ⟨id, slot⟩ := slot
      exact .inl ⟨c, tidy.filed slot ▸ slot, rfl⟩
    | inr running => exact .inr ⟨some c, running, c, rfl, rfl⟩

/-- The counter falls exactly if the last holder of the loose cell has gone. -/
theorem reclaim (tidy : b.Tidy (c :: loose)) : (b.reclaim c).Tidy loose := by
  have nodup := List.nodup_cons.mp tidy.nodup
  have without : ∀ c' ∈ b.cells ++ loose, c' ∈ b.cells ++ c :: loose := by
    simp only [List.mem_append, List.mem_cons]
    rintro c' (kept | rest)
    · exact .inl kept
    · exact .inr (.inr rest)
  by_cases held : b.holds c = true
  · rw [Bridge.reclaim, if_pos held]
    refine tidy.transfer tidy.filed nodup.2 rfl rfl fun c' => ⟨without c', ?_⟩
    simp only [List.mem_append, List.mem_cons]
    rintro (kept | rfl | rest)
    · exact .inl kept
    · exact .inl (tidy.holds_iff.mp held)
    · exact .inr rest
  · have fresh : c.token ∉ tokens (b.cells ++ loose) := by
      intro taken
      obtain ⟨c', member, token⟩ := mem_tokens.mp taken
      have same : c' = c := tidy.unique c' (without c' member) c (by simp) token
      subst same
      cases List.mem_append.mp member with
      | inl kept => exact held (tidy.holds_iff.mpr kept)
      | inr rest => exact nodup.1 rest
    have counted := tidy.counted
    rw [tokens_append, tokens_cons, Finset.union_insert, ← tokens_append,
      Finset.card_insert_of_notMem fresh] at counted
    rw [Bridge.reclaim, if_neg held]
    refine ⟨tidy.filed, tidy.positive, fun c' member => tidy.issued c' (without c' member),
      fun c₁ first c₂ second => tidy.unique c₁ (without c₁ first) c₂ (without c₂ second),
      nodup.2, ?_⟩
    change b.counter - 1 = (tokens (b.cells ++ loose)).card
    omega

theorem reclaimAll (tidy : b.Tidy loose) : (loose.foldl Bridge.reclaim b).Tidy [] := by
  induction loose generalizing b with
  | nil => exact tidy
  | cons c rest ih => exact ih tidy.reclaim

/-- A new cell is loose, and it is no older one. -/
theorem store (tidy : b.Tidy []) (id : HotkeyId) (handler : H) :
    (b.store id handler).2.Tidy [(b.store id handler).1] := by
  have older : ∀ c ∈ b.cells, 1 ≤ c.token ∧ c.token < b.nextToken := fun c held =>
    Finset.mem_Ico.mp (tidy.issued c (List.mem_append_left _ held))
  have positive := tidy.positive
  have fresh : b.nextToken ∉ tokens b.cells := by
    intro taken
    obtain ⟨c, held, token⟩ := mem_tokens.mp taken
    exact absurd token (Nat.ne_of_lt (older c held).2)
  refine ⟨tidy.filed, Nat.le_succ_of_le positive, ?_, ?_, List.nodup_singleton _, ?_⟩
  · intro c member
    refine Finset.mem_Ico.mpr ?_
    change 1 ≤ c.token ∧ c.token < b.nextToken + 1
    cases List.mem_append.mp member with
    | inl held =>
      have := older c held
      omega
    | inr new =>
      cases List.mem_singleton.mp new
      exact ⟨positive, Nat.lt_succ_self _⟩
  · intro c member c' member' token
    cases List.mem_append.mp member with
    | inl held =>
      cases List.mem_append.mp member' with
      | inl held' =>
        exact tidy.unique c (List.mem_append_left _ held) c' (List.mem_append_left _ held') token
      | inr new' =>
        cases List.mem_singleton.mp new'
        exact absurd token (Nat.ne_of_lt (older c held).2)
    | inr new =>
      cases List.mem_singleton.mp new
      cases List.mem_append.mp member' with
      | inl held' => exact absurd token.symm (Nat.ne_of_lt (older c' held').2)
      | inr new' => exact (List.mem_singleton.mp new').symm
  · have counted := tidy.counted
    rw [List.append_nil] at counted
    change b.counter + 1 = (tokens (b.cells ++ [⟨b.nextToken, id, handler⟩])).card
    rw [tokens_append, tokens_cons, Finset.union_insert, ← tokens_append, List.append_nil,
      Finset.card_insert_of_notMem fresh]
    omega

theorem fill (tidy : b.Tidy []) {id : HotkeyId} (unbound : b.isBound id = false) (handler : H) :
    (b.fill id handler).Tidy [] := by
  have free : b.slots.get? id = none := slot_eq_none_of_not_isBound (Bool.eq_false_iff.mp unbound)
  refine (tidy.store id handler).transfer ?_ List.nodup_nil rfl rfl ?_
  · intro other c slot
    obtain ⟨rfl, rfl⟩ | ⟨-, slot⟩ := Table.get?_insert_eq_some_iff.mp slot
    · rfl
    · exact tidy.filed slot
  · intro c
    simp only [List.append_nil, List.mem_append, List.mem_singleton, mem_cells, Bridge.fill,
      Table.get?_insert_eq_some_iff]
    constructor
    · rintro (⟨other, ⟨-, rfl⟩ | ⟨-, slot⟩⟩ | running)
      · exact .inr rfl
      · exact .inl (.inl ⟨other, slot⟩)
      · exact .inl (.inr running)
    · rintro ((⟨other, slot⟩ | running) | rfl)
      · have different : other ≠ id := by
          rintro rfl
          exact absurd (free.symm.trans slot) (by simp)
        exact .inl ⟨other, .inr ⟨different, slot⟩⟩
      · exact .inr running
      · exact .inl ⟨id, .inl ⟨rfl, rfl⟩⟩

/-- Whatever else changes: the cell of a slot that is emptied gets loose. -/
theorem emptySlot (tidy : b.Tidy []) {id : HotkeyId} (slot : b.slots.get? id = some c)
    (slots : b'.slots = b.slots.erase id) (running : b'.running = b.running)
    (nextToken : b'.nextToken = b.nextToken) (counter : b'.counter = b.counter) :
    b'.Tidy [c] := by
  refine tidy.transfer ?_ (List.nodup_singleton c) nextToken counter ?_
  · intro other c' slot'
    rw [slots] at slot'
    exact tidy.filed (Table.get?_erase_eq_some_iff.mp slot').2
  · intro c'
    simp only [List.append_nil, List.mem_append, List.mem_singleton, mem_cells, slots, running,
      Table.get?_erase_eq_some_iff]
    constructor
    · rintro ((⟨other, -, slot'⟩ | held) | rfl)
      · exact .inl ⟨other, slot'⟩
      · exact .inr held
      · exact .inl ⟨id, slot⟩
    · rintro (⟨other, slot'⟩ | held)
      · by_cases same : other = id
        · subst same
          exact .inr (Option.some.inj (slot'.symm.trans slot))
        · exact .inl (.inl ⟨other, same, slot'⟩)
      · exact .inl (.inr held)

theorem clearSlot (tidy : b.Tidy []) (id : HotkeyId) : (b.clearSlot id).Tidy [] := by
  unfold Bridge.clearSlot
  cases slot : b.slots.get? id with
  | none => exact tidy
  | some c =>
    have out : ({ b with slots := b.slots.erase id } : Bridge H).Tidy [c] :=
      tidy.emptySlot slot rfl rfl rfl rfl
    exact out.reclaim

/-- Only slots, dispatches and the counter matter. -/
theorem congr (tidy : b.Tidy []) (slots : b'.slots = b.slots) (running : b'.running = b.running)
    (nextToken : b'.nextToken = b.nextToken) (counter : b'.counter = b.counter) : b'.Tidy [] := by
  refine tidy.transfer (slots ▸ tidy.filed) List.nodup_nil nextToken counter fun c => ?_
  rw [cells, slots, running]
  rfl

theorem withdraw (tidy : b.Tidy []) (id : HotkeyId) (backend : Backend) :
    (b.withdraw id backend).Tidy [] := by
  unfold Bridge.withdraw
  cases slot : b.slots.get? id with
  | none => exact tidy.congr (Table.erase_of_get?_eq_none slot) rfl rfl rfl
  | some c =>
    have out : ({ b with
        handles := { b.handles with live := b.handles.live.erase id }
        slots := b.slots.erase id
        backend } : Bridge H).Tidy [c] := tidy.emptySlot slot rfl rfl rfl rfl
    exact out.reclaim

/-- Cells in different slots are different. -/
theorem values_nodup (tidy : b.Tidy loose) : b.slots.values.Nodup := by
  have ids : b.slots.values.map (·.id) = b.slots.keys := by
    unfold Table.values Table.keys
    rw [List.map_map]
    refine List.map_congr_left ?_
    intro entry member
    exact tidy.filed (Table.get?_eq_some_iff.mpr member)
  refine List.Nodup.of_map (·.id) ?_
  rw [ids]
  exact b.slots.nodup_keys

theorem shutdown (tidy : b.Tidy []) (env : Conditions) : (b.shutdown env).2.Tidy [] := by
  simp only [Bridge.shutdown, releaseAll_eq]
  have nothing : ∀ {id : HotkeyId} {c : Cell H}, Table.empty.get? id = some c → c.id = id := by
    intro id c slot
    cases slot
  refine reclaimAll (tidy.transfer nothing tidy.values_nodup rfl rfl ?_)
  intro c
  simp only [List.mem_append, List.append_nil, mem_cells, Table.mem_values_iff]
  constructor
  · rintro ((⟨_, slot⟩ | held) | slot)
    · cases slot
    · exact .inr held
    · exact .inl slot
  · rintro (slot | held)
    · exact .inr slot
    · exact .inl (.inr held)

theorem enter (tidy : b.Tidy []) (id : HotkeyId) :
    ({ b with running := b.slots.get? id :: b.running } : Bridge H).Tidy [] := by
  refine tidy.transfer tidy.filed List.nodup_nil rfl rfl ?_
  intro c
  simp only [List.append_nil, mem_cells, List.mem_cons]
  constructor
  · rintro (slot | found | held)
    · exact .inl slot
    · exact .inl ⟨id, found.symm⟩
    · exact .inr held
  · rintro (slot | held)
    · exact .inl slot
    · exact .inr (.inr held)

theorem leave (tidy : b.Tidy []) : b.leave.Tidy [] := by
  unfold Bridge.leave
  cases running : b.running with
  | nil => exact tidy
  | cons frame rest =>
    cases frame with
    | none =>
      refine tidy.transfer tidy.filed List.nodup_nil rfl rfl fun c => ?_
      simp [mem_cells, running]
    | some c =>
      have out : ({ b with running := rest } : Bridge H).Tidy [c] := by
        refine tidy.transfer tidy.filed (List.nodup_singleton c) rfl rfl fun c' => ?_
        simp only [List.append_nil, List.mem_append, mem_cells, running, List.mem_cons,
          List.not_mem_nil, or_false, Option.some.injEq]
        rw [or_assoc, or_comm (a := some c' ∈ rest)]
      exact out.reclaim

theorem change (tidy : b.Tidy []) (change : Change r b b') : b'.Tidy [] := by
  cases change with
  | enroll free accepted => exact tidy.congr rfl rfl rfl rfl
  | fill registered unbound => exact tidy.fill unbound _
  | discard => exact (tidy.store _ _).reclaim
  | clearSlot => exact tidy.clearSlot _
  | withdraw live released => exact tidy.withdraw _ _
  | abandon allowed => exact tidy.withdraw _ _
  | shutdown allowed => exact tidy.shutdown _
  | enter registered => exact tidy.enter _
  | leave => exact tidy.leave
  | listen => exact tidy.congr rfl rfl rfl rfl

theorem boundCount_eq (tidy : b.Tidy []) : b.boundCount = b.bound.card := by
  have nodup : (b.slots.values.map (·.token)).Nodup := by
    refine List.Nodup.map_on ?_ tidy.values_nodup
    intro c slot c' slot' token
    have slotted : ∀ c ∈ b.slots.values, c ∈ b.cells ++ [] := fun c slot =>
      List.mem_append_left _ (List.mem_append_left _ slot)
    exact tidy.unique c (slotted c slot) c' (slotted c' slot') token
  rw [bound, tokens, List.toFinset_card_of_nodup nodup]
  simp [boundCount, Table.size, Table.values]

theorem liveSlots_eq_card (tidy : b.Tidy []) : b.liveSlots = (tokens b.cells).card := by
  rw [liveSlots, tidy.counted, List.append_nil, Int.toNat_natCast]

/-- Slots hold cells, and dispatches hold those that have left their slots. -/
theorem liveSlots_eq_add (tidy : b.Tidy []) : b.liveSlots = b.boundCount + b.orphans.card := by
  rw [tidy.liveSlots_eq_card, tokens_cells, tidy.boundCount_eq, orphans, Finset.union_comm,
    ← Finset.card_sdiff_add_card, Nat.add_comm]

/-- While no dispatch is under way, only slots hold cells. -/
theorem liveSlots_of_idle (tidy : b.Tidy []) (idle : b.running = []) :
    b.liveSlots = b.boundCount := by
  rw [tidy.liveSlots_eq_add, orphans, inFlight, idle]
  simp [tokens]

theorem tokens_subset (tidy : b.Tidy []) : tokens b.cells ⊆ Finset.Ico 1 b.nextToken := by
  intro n held
  obtain ⟨c, member, rfl⟩ := mem_tokens.mp held
  exact tidy.issued c (List.mem_append_left _ member)

end Tidy

theorem new_tidy (backend : Backend) (strict : Bool) :
    (new backend strict : Bridge H).Tidy [] := by
  have none_held : ∀ c, c ∉ (new backend strict : Bridge H).cells ++ [] := by
    intro c held
    cases held
  refine ⟨(fun slot => nomatch slot), Nat.le_refl 1, ?_, ?_, List.nodup_nil, rfl⟩
  · intro c held
    exact absurd held (none_held c)
  · intro c held
    exact absurd held (none_held c)

theorem new_tidy_run (backend : Backend) (strict : Bool) (moves : List (Move H)) :
    ((new backend strict).run moves).Tidy [] :=
  (new_paired backend strict).run_keeps_of_change (fun _ tidy change => tidy.change change)
    (new_tidy backend strict) fun _ => rfl

/-! ## Cells that have been given back -/

/-- No change brings a cell back: what is held afterwards was held before or is new. -/
theorem Change.cells (change : Change r b b') :
    b.nextToken ≤ b'.nextToken ∧ ∀ c ∈ b'.cells, c ∈ b.cells ∨ c.token = b.nextToken := by
  have erased : ∀ {id c}, (∃ other, (b.slots.erase id).get? other = some c) →
      ∃ other, b.slots.get? other = some c := by
    rintro id c ⟨other, slot⟩
    exact ⟨other, (Table.get?_erase_eq_some_iff.mp slot).2⟩
  simp only [mem_cells]
  cases change with
  | enroll free accepted => exact ⟨Nat.le_refl _, fun c held => .inl held⟩
  | fill registered unbound =>
    refine ⟨Nat.le_succ _, ?_⟩
    rintro c (⟨other, slot⟩ | held)
    · obtain ⟨-, rfl⟩ | ⟨-, slot⟩ := Table.get?_insert_eq_some_iff.mp slot
      · exact .inr rfl
      · exact .inl (.inl ⟨other, slot⟩)
    · exact .inl (.inr held)
  | discard =>
    rw [discard_eq]
    exact ⟨Nat.le_succ _, fun c held => .inl held⟩
  | clearSlot =>
    rw [clearSlot_eq]
    exact ⟨Nat.le_refl _, fun c held => .inl (held.imp erased id)⟩
  | withdraw live released =>
    rw [withdraw_eq]
    exact ⟨Nat.le_refl _, fun c held => .inl (held.imp erased id)⟩
  | abandon allowed =>
    rw [withdraw_eq]
    exact ⟨Nat.le_refl _, fun c held => .inl (held.imp erased id)⟩
  | shutdown allowed =>
    rw [shutdown_eq]
    refine ⟨Nat.le_refl _, fun c held => .inl (held.imp ?_ id)⟩
    rintro ⟨other, slot⟩
    cases slot
  | @enter id registered =>
    refine ⟨Nat.le_refl _, ?_⟩
    rintro c (slot | held)
    · exact .inl (.inl slot)
    · cases List.mem_cons.mp held with
      | inl found => exact .inl (.inl ⟨id, found.symm⟩)
      | inr held => exact .inl (.inr held)
  | leave =>
    rw [leave_eq]
    exact ⟨Nat.le_refl _, fun c held => .inl (held.imp id List.mem_of_mem_tail)⟩
  | listen => exact ⟨Nat.le_refl _, fun c held => .inl held⟩

theorem Change.spent (change : Change r b b') {n : Nat} (given : n ∈ b.spent) : n ∈ b'.spent := by
  simp only [Bridge.spent, Finset.mem_sdiff, Finset.mem_Ico, mem_tokens] at given ⊢
  obtain ⟨nextToken, cells⟩ := change.cells
  refine ⟨⟨given.1.1, given.1.2.trans_le nextToken⟩, ?_⟩
  rintro ⟨c, held, rfl⟩
  cases cells c held with
  | inl before => exact given.2 ⟨c, before, rfl⟩
  | inr new => exact absurd new (Nat.ne_of_lt given.1.2)

theorem Paired.spent_run (paired : b.Paired) (moves : List (Move H)) :
    b.spent ⊆ (b.run moves).spent :=
  paired.run_keeps_of_change (P := fun b' => b.spent ⊆ b'.spent)
    (fun _ kept change _ given => change.spent (kept given)) (Finset.Subset.refl _) fun _ => rfl

/-- What a bridge counts. The cells that have not been given back are those in the slots and those
that have left their slots while a dispatch still holds them, so there are no others once no dispatch
is under way. The counter never falls below zero: what has been given back is all that has been
stored and is not held. -/
structure Counted (b : Bridge H) : Prop where
  counter : b.counter = b.liveSlots
  unique : ∀ c ∈ b.cells, ∀ c' ∈ b.cells, c.token = c'.token → c = c'
  held : b.liveSlots = b.boundCount + b.orphans.card
  idle : b.running = [] → b.liveSlots = b.boundCount
  stored : b.liveSlots + b.spent.card + 1 = b.nextToken

theorem Tidy.count (tidy : b.Tidy []) : b.Counted where
  counter := by
    rw [tidy.liveSlots_eq_card, tidy.counted, List.append_nil]
  unique := by simpa only [List.append_nil] using tidy.unique
  held := tidy.liveSlots_eq_add
  idle := tidy.liveSlots_of_idle
  stored := by
    have all := Finset.card_sdiff_add_card_eq_card tidy.tokens_subset
    rw [Nat.card_Ico] at all
    have positive := tidy.positive
    rw [tidy.liveSlots_eq_card, spent]
    omega

/-- In every state that a bridge can reach, also in the middle of handlers, its cells are counted as
they are held, and what has been given back stays so. Both are so after a dispatch, and a dispatch on
a bridge that had no other one under way leaves none that holds a cell. -/
theorem liveSlots_run (backend : Backend) (strict : Bool) (moves : List (Move H)) :
    let b := (new backend strict : Bridge H).run moves
    b.Counted ∧ (∀ more, b.spent ⊆ (b.run more).spent) ∧
    ∀ more b', b.Dispatches more b' → b'.Counted ∧ b.spent ⊆ b'.spent ∧
      (b.running = [] → b'.liveSlots = b'.boundCount) := by
  intro b
  have spent : ∀ more, b.spent ⊆ (b.run more).spent :=
    ((new_paired backend strict).run moves).spent_run
  refine ⟨(new_tidy_run backend strict moves).count, spent, fun more b' dispatches => ?_⟩
  obtain ⟨ran, running⟩ := dispatches.run
  have counted : b'.Counted := by
    rw [ran]
    exact (new_tidy_run backend strict (moves ++ more)).count
  refine ⟨counted, ?_, fun idle => counted.idle (running.trans idle)⟩
  rw [ran, run_append]
  exact spent more

/-- A handler that unregisters its own hotkey holds its cell until it returns, and no longer. -/
theorem liveSlots_run_retired :
    let moves : List (Move Unit) := [.registerAndBind {} none 7 { key := 65 } ()]
    let b := (new (.simulated {}) true).run moves
    let b' := ((Stage.told fun _ => [.unregister {} 7]).dispatch ⟨7, true⟩ b).2
    b.liveSlots = 1 ∧ (b.run [.enter 7, .unregister {} 7]).liveSlots = 1 ∧ b'.liveSlots = 0 := by
  intro moves b b'
  obtain ⟨-, -, dispatched⟩ := liveSlots_run (.simulated {}) true moves
  obtain ⟨-, -, idle⟩ := dispatched _ b'
    (Stage.told_dispatches (fun _ => List.forall_mem_singleton.mpr rfl) ⟨7, true⟩ rfl)
  exact ⟨rfl, by decide +kernel, (idle rfl).trans (by decide +kernel)⟩

end Hotkeys.Bridge
