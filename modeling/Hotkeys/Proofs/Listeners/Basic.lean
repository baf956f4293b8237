import Hotkeys.Listeners
import Mathlib.Data.List.Nodup

/-!
# What listeners get

A listener takes an event that it is offered if it is open and has room. One that has closed is
forgotten. What is offered to another listener, and what the owner of another listener does, is no
step for it at all.

## Implementation notes

`Tuned` is what holds between the two lists of listeners. Events are sent to every open listener
and to no listener twice, and so a pass over `senders` comes to each open listener exactly once.
-/

namespace Hotkeys

/-- A listener that is offered an event. One that has closed or is full does not take it. -/
def Listener.receive (e : Event) (x : Listener) : Listener :=
  if x.isOpen && x.queue.length < Listeners.capacity then { x with queue := x.queue ++ [e] }
  else x

@[simp] theorem Listener.receive_isOpen (e : Event) (x : Listener) :
    (x.receive e).isOpen = x.isOpen := by
  unfold receive
  split <;> rfl

theorem Listener.receive_of_closed {x : Listener} (closed : x.isOpen = false) (e : Event) :
    x.receive e = x := by
  simp [receive, closed]

/-- A queue holds no more than there is room for, and that of a closed listener holds nothing. -/
structure Listener.Sound (x : Listener) : Prop where
  bounded : x.queue.length ≤ Listeners.capacity
  emptied : x.isOpen = false → x.queue = []

theorem Listener.Sound.receive {x : Listener} (sound : x.Sound) (e : Event) :
    (x.receive e).Sound := by
  unfold Listener.receive
  split
  · rename_i room
    obtain ⟨isOpen, room⟩ := Bool.and_eq_true_iff.mp room
    refine ⟨?_, fun closed => absurd (closed.symm.trans isOpen) (by decide)⟩
    rw [List.length_append]
    exact of_decide_eq_true room
  · exact sound

namespace Listeners

variable {l l' : Listeners} {i j : Nat} {e : Event} {x : Listener}

/-! ## Single listeners -/

theorem get?_update (l : Listeners) (i j : Nat) (f : Listener → Listener) :
    (l.update i f).get? j = if j = i then (l.get? j).map f else l.get? j := by
  simp only [get?, update, List.getElem?_modify]
  by_cases same : j = i
  · simp [same]
  · simp [same, Ne.symm same]

theorem length_update (l : Listeners) (i : Nat) (f : Listener → Listener) :
    (l.update i f).all.length = l.all.length := List.length_modify ..

theorem isOpen_eq (l : Listeners) (i : Nat) : l.isOpen i = (l.get? i).any (·.isOpen) :=
  Option.isSome_filter ..

theorem isOpen_iff : l.isOpen i = true ↔ ∃ x, l.get? i = some x ∧ x.isOpen = true := by
  rw [isOpen_eq, Option.any_eq_true]

theorem open?_eq_some_iff : l.open? i = some x ↔ l.get? i = some x ∧ x.isOpen = true :=
  Option.filter_eq_some_iff

theorem isOpen_of_open?_eq_none (absent : l.open? i = none) : l.isOpen i = false := by
  rw [isOpen, absent]
  rfl

/-- Whether a listener is open is not changed by what leaves the listener open or closed. -/
theorem isOpen_of_map {f : Listener → Listener} (kept : ∀ x, (f x).isOpen = x.isOpen)
    (same : l'.get? i = (l.get? i).map f) : l'.isOpen i = l.isOpen i := by
  rw [isOpen_eq, isOpen_eq, same]
  cases l.get? i with
  | none => rfl
  | some x => exact kept x

/-! ## Offers -/

/-- To a single listener, an offer is what it makes of the event. -/
theorem offer_get? (l : Listeners) (i j : Nat) (e : Event) :
    (l.offer i e).2.get? j =
      if j = i then (l.get? j).map (Listener.receive e) else l.get? j := by
  unfold offer
  cases found : l.open? i with
  | none =>
    have closed := isOpen_of_open?_eq_none found
    change l.get? j = _
    by_cases same : j = i
    · subst same
      rw [if_pos rfl]
      cases listener : l.get? j with
      | none => rfl
      | some x =>
        rw [isOpen_eq, listener] at closed
        exact congrArg some (Listener.receive_of_closed closed e).symm
    · rw [if_neg same]
  | some x =>
    obtain ⟨listener, isOpen⟩ := open?_eq_some_iff.mp found
    by_cases room : x.queue.length < capacity
    · simp only [if_pos room, get?_update]
      by_cases same : j = i
      · subst same
        simp [listener, Listener.receive, isOpen, room]
      · rw [if_neg same, if_neg same]
    · simp only [if_neg room]
      by_cases same : j = i
      · subst same
        simp [listener, Listener.receive, room]
      · rw [if_neg same]

/-- An offer to a listener that has closed takes it from those that events are sent to. -/
theorem offer_senders (l : Listeners) (i : Nat) (e : Event) :
    (l.offer i e).2.senders =
      if l.isOpen i then l.senders else l.senders.filter (· != i) := by
  unfold offer isOpen
  cases l.open? i with
  | none => rfl
  | some x =>
    dsimp only
    split <;> rfl

theorem offer_isOpen (l : Listeners) (i j : Nat) (e : Event) :
    (l.offer i e).2.isOpen j = l.isOpen j := by
  have offered := l.offer_get? i j e
  by_cases same : j = i
  · rw [if_pos same] at offered
    exact isOpen_of_map (Listener.receive_isOpen e) offered
  · rw [if_neg same] at offered
    rw [isOpen_eq, isOpen_eq, offered]

theorem offer_length (l : Listeners) (i : Nat) (e : Event) :
    (l.offer i e).2.all.length = l.all.length := by
  unfold offer
  split
  · rfl
  · split
    · exact length_update ..
    · rfl

/-! ## The owners of listeners -/

/-- What the owner of a listener, or of the bridge, does with the listeners. -/
inductive Act
  | subscribe
  | take (i : Nat)
  | drain (i : Nat)
  | close (i : Nat)
  | cleanup
  deriving DecidableEq, Repr

/-- The listener that an act is about. -/
def Act.listener? : Act → Option Nat
  | take i | drain i | close i => some i
  | subscribe | cleanup => none

/-- The events that an act reads, and what it makes of the listeners. -/
def act (l : Listeners) : Act → List Event × Listeners
  | .subscribe => ([], l.subscribe.2)
  | .take i =>
    match l.take? i with
    | some (e, l) => ([e], l)
    | none => ([], l)
  | .drain i => l.drain i
  | .close i => ([], l.close i)
  | .cleanup => ([], l.cleanup)

/-- What an act about a listener does to this listener. -/
def Act.apply (a : Act) (x : Listener) : List Event × Listener :=
  match a with
  | take _ =>
    match x.isOpen, x.queue with
    | true, e :: rest => ([e], { x with queue := rest })
    | _, _ => ([], x)
  | drain _ => (x.queue, { x with queue := [] })
  | close _ => ([], { isOpen := false, queue := [] })
  | subscribe | cleanup => ([], x)

/-- No act opens a listener that has closed. -/
theorem Act.isOpen_of_apply {a : Act} (isOpen : (a.apply x).2.isOpen = true) :
    x.isOpen = true := by
  cases a with
  | subscribe => exact isOpen
  | take i =>
    simp only [apply] at isOpen
    split at isOpen <;> exact isOpen
  | drain i => exact isOpen
  | close i => cases isOpen
  | cleanup => exact isOpen

/-- An act about a listener is what it does to this listener. -/
theorem act_get? {a : Act} (own : a.listener? = some i) (l : Listeners) (j : Nat) :
    (l.act a).2.get? j =
      if j = i then (l.get? j).map fun x => (a.apply x).2 else l.get? j := by
  cases a with
  | subscribe => cases own
  | cleanup => cases own
  | drain i =>
    cases own
    exact get?_update ..
  | close i =>
    cases own
    exact get?_update ..
  | take i =>
    cases own
    by_cases same : j = i
    · subst same
      rw [if_pos rfl]
      simp only [act, take?, open?]
      cases found : l.get? j with
      | none => exact found
      | some x =>
        obtain ⟨isOpen, queue⟩ := x
        cases isOpen with
        | false => exact found
        | true =>
          cases queue with
          | nil => exact found
          | cons e rest =>
            refine (get?_update ..).trans ?_
            rw [if_pos rfl, found]
            rfl
    · rw [if_neg same]
      simp only [act, take?]
      split
      · rename_i taken
        split at taken
        · cases taken
          exact (get?_update ..).trans (if_neg same)
        · cases taken
      · rfl

theorem act_read {a : Act} (own : a.listener? = some i) (found : l.get? i = some x) :
    (l.act a).1 = (a.apply x).1 := by
  cases a with
  | subscribe => cases own
  | cleanup => cases own
  | drain i =>
    cases own
    simp [act, drain, found, Act.apply]
  | close i =>
    cases own
    rfl
  | take i =>
    cases own
    simp only [act, take?, open?, found]
    obtain ⟨isOpen, queue⟩ := x
    cases isOpen <;> cases queue <;> rfl

theorem act_read_of_none {a : Act} (own : a.listener? = some i) (absent : l.get? i = none) :
    (l.act a).1 = [] := by
  cases a with
  | subscribe => cases own
  | cleanup => cases own
  | drain i =>
    cases own
    simp [act, drain, absent]
  | close i =>
    cases own
    rfl
  | take i =>
    cases own
    simp [act, take?, open?, absent]

/-- An act about a listener leaves the lists as long as they are. -/
theorem act_own {a : Act} (own : a.listener? = some i) (l : Listeners) :
    (l.act a).2.senders = l.senders ∧ (l.act a).2.all.length = l.all.length := by
  cases a with
  | subscribe => cases own
  | cleanup => cases own
  | drain i => exact ⟨rfl, length_update ..⟩
  | close i => exact ⟨rfl, length_update ..⟩
  | take i =>
    simp only [act, take?]
    split
    · rename_i taken
      split at taken
      · cases taken
        exact ⟨rfl, length_update ..⟩
      · cases taken
    · exact ⟨rfl, rfl⟩

theorem get?_of_le (beyond : l.all.length ≤ i) : l.get? i = none := List.getElem?_eq_none beyond

theorem subscribe_length (l : Listeners) : l.subscribe.2.all.length = l.all.length + 1 :=
  List.length_append

theorem subscribe_get? (l : Listeners) (j : Nat) :
    l.subscribe.2.get? j = if j = l.all.length then some {} else l.get? j := by
  simp only [get?, subscribe]
  split
  · rename_i last
    rw [last, List.getElem?_concat_length]
  · rename_i other
    by_cases before : j < l.all.length
    · exact List.getElem?_append_left before
    · have length : (l.all ++ [({} : Listener)]).length = l.all.length + 1 := l.subscribe_length
      rw [List.getElem?_eq_none (by omega), List.getElem?_eq_none (by omega)]

theorem Act.sound_apply (a : Act) (sound : x.Sound) : (a.apply x).2.Sound := by
  cases a with
  | subscribe => exact sound
  | cleanup => exact sound
  | drain i => exact ⟨Nat.zero_le _, fun _ => rfl⟩
  | close i => exact ⟨Nat.zero_le _, fun _ => rfl⟩
  | take i =>
    obtain ⟨isOpen, queue⟩ := x
    cases isOpen with
    | false => exact sound
    | true =>
      cases queue with
      | nil => exact sound
      | cons e rest => exact ⟨Nat.le_of_succ_le sound.bounded, nofun⟩

/-! ## Listeners that fit together -/

/-- Events are sent to every listener that is open, and to no listener twice. -/
structure Tuned (l : Listeners) : Prop where
  nodup : l.senders.Nodup
  known : ∀ i ∈ l.senders, i < l.all.length
  sent : ∀ {i}, l.isOpen i = true → i ∈ l.senders
  sound : ∀ {i x}, l.get? i = some x → x.Sound

namespace Tuned

theorem none : ({} : Listeners).Tuned :=
  ⟨List.nodup_nil, nofun, nofun, nofun⟩

/-- Nothing waits for a listener that has closed. -/
theorem get?_of_closed (tuned : l.Tuned) (found : l.get? i = some x)
    (closed : l.isOpen i = false) : l.get? i = some { isOpen := false, queue := [] } := by
  rw [isOpen_eq, found] at closed
  rw [found]
  exact congrArg some (congrArg₂ Listener.mk closed ((tuned.sound found).emptied closed))

/-- Listeners are in tune after an offer. -/
theorem offer (tuned : l.Tuned) (i : Nat) (e : Event) : (l.offer i e).2.Tuned := by
  have subset : ∀ j ∈ (l.offer i e).2.senders, j ∈ l.senders := by
    intro j member
    rw [offer_senders] at member
    split at member
    · exact member
    · exact List.mem_of_mem_filter member
  refine ⟨?_, ?_, ?_, ?_⟩
  · rw [offer_senders]
    split
    · exact tuned.nodup
    · exact tuned.nodup.filter _
  · intro j member
    rw [offer_length]
    exact tuned.known j (subset j member)
  · intro j isOpen
    rw [offer_isOpen] at isOpen
    have sent := tuned.sent isOpen
    rw [offer_senders]
    split
    · exact sent
    · rename_i closed
      refine List.mem_filter.mpr ⟨sent, bne_iff_ne.mpr ?_⟩
      rintro rfl
      exact closed isOpen
  · intro j x found
    rw [offer_get?] at found
    split at found
    · obtain ⟨y, listener, rfl⟩ := Option.map_eq_some_iff.mp found
      exact (tuned.sound listener).receive e
    · exact tuned.sound found

/-- Listeners are in tune after what their owners do. -/
theorem act (tuned : l.Tuned) (a : Act) : (l.act a).2.Tuned := by
  cases own : a.listener? with
  | some i =>
    obtain ⟨senders, length⟩ := act_own own l
    refine ⟨senders ▸ tuned.nodup, ?_, ?_, ?_⟩
    · rw [senders, length]
      exact tuned.known
    · intro j isOpen
      rw [senders]
      obtain ⟨y, found, isOpen⟩ := isOpen_iff.mp isOpen
      rw [act_get? own] at found
      split at found
      · obtain ⟨x, listener, rfl⟩ := Option.map_eq_some_iff.mp found
        exact tuned.sent (isOpen_iff.mpr ⟨x, listener, Act.isOpen_of_apply isOpen⟩)
      · exact tuned.sent (isOpen_iff.mpr ⟨y, found, isOpen⟩)
    · intro j y found
      rw [act_get? own] at found
      split at found
      · obtain ⟨x, listener, rfl⟩ := Option.map_eq_some_iff.mp found
        exact a.sound_apply (tuned.sound listener)
      · exact tuned.sound found
  | none =>
    cases a with
    | take i => cases own
    | drain i => cases own
    | close i => cases own
    | cleanup =>
      refine ⟨tuned.nodup.filter _, ?_, ?_, tuned.sound⟩
      · exact fun i member => tuned.known i (List.mem_of_mem_filter member)
      · exact fun isOpen => List.mem_filter.mpr ⟨tuned.sent isOpen, isOpen⟩
    | subscribe =>
      refine ⟨?_, ?_, ?_, ?_⟩
      · refine List.nodup_append_comm.mp (List.nodup_cons.mpr ⟨?_, tuned.nodup⟩)
        exact fun member => absurd (tuned.known _ member) (Nat.lt_irrefl _)
      · intro i member
        refine lt_of_lt_of_eq ?_ l.subscribe_length.symm
        cases List.mem_append.mp member with
        | inl old => exact Nat.lt_succ_of_lt (tuned.known i old)
        | inr new => exact List.mem_singleton.mp new ▸ Nat.lt_succ_self _
      · intro i isOpen
        obtain ⟨y, found, isOpen⟩ := isOpen_iff.mp isOpen
        rw [show (l.act .subscribe).2.get? i = _ from subscribe_get? l i] at found
        split at found
        · rename_i last
          exact List.mem_append_right _ (List.mem_singleton.mpr last)
        · exact List.mem_append_left _ (tuned.sent (isOpen_iff.mpr ⟨y, found, isOpen⟩))
      · intro i y found
        rw [show (l.act .subscribe).2.get? i = _ from subscribe_get? l i] at found
        split at found
        · cases found
          exact ⟨Nat.zero_le _, nofun⟩
        · exact tuned.sound found

end Tuned

/-! ## Listeners that are forgotten -/

/-- No event is sent to the listener any more. -/
structure Gone (l : Listeners) (i : Nat) : Prop where
  known : i < l.all.length
  unsent : i ∉ l.senders

/-- A listener that has closed is forgotten as soon as it is offered an event. -/
theorem Gone.of_offer (known : i < l.all.length) (closed : l.isOpen i = false) (e : Event) :
    (l.offer i e).2.Gone i where
  known := by rwa [offer_length]
  unsent := by
    rw [offer_senders, if_neg (by simp [closed])]
    exact fun member => by simpa using List.of_mem_filter member

theorem Gone.offer (gone : l.Gone i) (j : Nat) (e : Event) : (l.offer j e).2.Gone i where
  known := by
    rw [offer_length]
    exact gone.known
  unsent := by
    rw [offer_senders]
    split
    · exact gone.unsent
    · exact fun member => gone.unsent (List.mem_of_mem_filter member)

/-- A listener that is gone does not come back. -/
theorem Gone.act (gone : l.Gone i) (a : Act) : (l.act a).2.Gone i := by
  cases own : a.listener? with
  | some j =>
    obtain ⟨senders, length⟩ := act_own own l
    exact ⟨length ▸ gone.known, senders ▸ gone.unsent⟩
  | none =>
    cases a with
    | cleanup => exact ⟨gone.known, fun member => gone.unsent (List.mem_of_mem_filter member)⟩
    | subscribe =>
      refine ⟨?_, fun member => ?_⟩
      · exact lt_of_lt_of_eq (Nat.lt_succ_of_lt gone.known) l.subscribe_length.symm
      · -- the new listener is another one
        cases List.mem_append.mp member with
        | inl old => exact gone.unsent old
        | inr new => exact absurd gone.known (List.mem_singleton.mp new ▸ Nat.lt_irrefl _)
    | take j => cases own
    | drain j => cases own
    | close j => cases own

/-! ## One listener and the others -/

/-- What an act is not about stays as it is. Only a new listener comes into being. -/
theorem act_get?_other {a : Act} (other : a.listener? ≠ some i)
    (old : a = .subscribe → i ≠ l.all.length) : (l.act a).2.get? i = l.get? i := by
  cases own : a.listener? with
  | some j =>
    rw [act_get? own, if_neg]
    rintro rfl
    exact other own
  | none =>
    cases a with
    | cleanup => rfl
    | subscribe => exact (subscribe_get? l i).trans (if_neg (old rfl))
    | take j => cases own
    | drain j => cases own
    | close j => cases own

/-- Two collections of listeners that cannot be told apart from the place of one of them. -/
structure Alike (i : Nat) (l l' : Listeners) : Prop where
  tuned : l.Tuned
  tuned' : l'.Tuned
  length : l.all.length = l'.all.length
  same : l.get? i = l'.get? i

/-- Whether an act can concern the listener `i`, now or later. -/
def Act.concerns (i : Nat) (a : Act) : Bool := a.listener? == some i || a == subscribe

namespace Alike

theorem offer (alike : Alike i l l') (e : Event) :
    Alike i (l.offer i e).2 (l'.offer i e).2 where
  tuned := alike.tuned.offer i e
  tuned' := alike.tuned'.offer i e
  length := (offer_length ..).trans (alike.length.trans (offer_length ..).symm)
  same := by rw [offer_get?, offer_get?, alike.same]

/-- What another listener is offered cannot be told from here. -/
theorem skip_offer (alike : Alike i l l') (other : j ≠ i) (e : Event) :
    Alike i (l.offer j e).2 l' where
  tuned := alike.tuned.offer j e
  tuned' := alike.tuned'
  length := (offer_length ..).trans alike.length
  same := by rw [offer_get?, if_neg (Ne.symm other), alike.same]

theorem act (alike : Alike i l l') {a : Act} (concerned : a.concerns i = true) :
    (l.act a).1 = (l'.act a).1 ∧ Alike i (l.act a).2 (l'.act a).2 := by
  obtain own | rfl : a.listener? = some i ∨ a = .subscribe := by
    simpa [Act.concerns] using concerned
  · refine ⟨?_, alike.tuned.act a, alike.tuned'.act a, ?_, ?_⟩
    · cases found : l.get? i with
      | none => rw [act_read_of_none own found, act_read_of_none own (alike.same ▸ found)]
      | some x => rw [act_read own found, act_read own (alike.same ▸ found)]
    · rw [(act_own own l).2, (act_own own l').2, alike.length]
    · rw [act_get? own, act_get? own, alike.same]
  · refine ⟨rfl, alike.tuned.act _, alike.tuned'.act _, ?_, ?_⟩
    · simp [Listeners.act, subscribe, alike.length]
    · exact (subscribe_get? l i).trans (by rw [alike.length, alike.same, ← subscribe_get?]; rfl)

/-- What is done to another listener cannot be told from here. -/
theorem skip (alike : Alike i l l') {a : Act} (unconcerned : a.concerns i = false) :
    Alike i (l.act a).2 l' := by
  obtain ⟨other, different⟩ : a.listener? ≠ some i ∧ a ≠ .subscribe := by
    simpa [Act.concerns] using unconcerned
  refine ⟨alike.tuned.act a, alike.tuned', Eq.trans ?_ alike.length,
    (act_get?_other other fun new => absurd new different).trans alike.same⟩
  cases a with
  | subscribe => exact absurd rfl different
  | cleanup => rfl
  | take j => exact (act_own rfl l).2
  | drain j => exact (act_own rfl l).2
  | close j => exact (act_own rfl l).2

end Alike

end Listeners

end Hotkeys
