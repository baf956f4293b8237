import Hotkeys.Proofs.Bridge.Turns

/-!
# What a listener is offered and reads

Turns move events through the queue of a listener. What its owner has read, and then what still
waits, are the events that it was offered and had room for, in the order of the offers. What
happens to other listeners makes no difference.

## Implementation notes

`offers` is kept along the turns and says what the listener should hear. It records how many events
wait for the listener at that moment, and nothing about handlers enters into it.
-/

namespace Hotkeys

namespace Listeners

/-- The events that wait for a listener. -/
def queue (l : Listeners) (i : Nat) : List Event := ((l.get? i).map (·.queue)).getD []

end Listeners

namespace Bridge

open Listeners (capacity)

variable {H : Type} {b : Bridge H} {i : Nat}

/-! ## Offers and reads -/

/-- What a turn offers to a listener, if the listener is open. The event comes with the number of
those that wait already. -/
def offer? (b : Bridge H) (i : Nat) : Turn H → Option (Event × Nat)
  | .offer j e => if j = i then (b.listeners.open? i).map fun x => (e, x.queue.length) else none
  | _ => none

/-- What turns come to, as far as they come to anything, in order. -/
def collect {α : Type} (f : Bridge H → Turn H → Option α) : Bridge H → List (Turn H) → List α
  | _, [] => []
  | b, t :: rest => (f b t).toList ++ collect f (b.play t).2 rest

/-- All that a listener is offered. -/
def offers (i : Nat) (b : Bridge H) (turns : List (Turn H)) : List (Event × Nat) :=
  collect (fun b => b.offer? i) b turns

/-- The offered events for which there is room. -/
def accepted (offers : List (Event × Nat)) : List Event :=
  (offers.filter fun o => o.2 < capacity).map Prod.fst

/-- What the owner of a listener reads at a turn. -/
def readAt (i : Nat) : Turn H × Reply H → List Event
  | (.listeners a, .read events) => if a.listener? = some i then events else []
  | _ => []

/-- All that the owner of a listener reads. -/
def reads (i : Nat) (b : Bridge H) (turns : List (Turn H)) : List Event :=
  (b.transcript turns).flatMap (readAt i)

theorem collect_append {α : Type} (f : Bridge H → Turn H → Option α) (b : Bridge H)
    (first second : List (Turn H)) :
    collect f b (first ++ second) = collect f b first ++ collect f (b.playAll first) second := by
  induction first generalizing b with
  | nil => rfl
  | cons t rest ih => simp only [List.cons_append, collect, playAll, ih, List.append_assoc]

theorem collect_eq_nil {α : Type} {f : Bridge H → Turn H → Option α} {turns : List (Turn H)}
    (nothing : ∀ t ∈ turns, ∀ b, f b t = none) (b : Bridge H) : collect f b turns = [] := by
  induction turns generalizing b with
  | nil => rfl
  | cons t rest ih =>
    obtain ⟨first, others⟩ := List.forall_mem_cons.mp nothing
    rw [collect, first, ih others]
    rfl

theorem accepted_append (first second : List (Event × Nat)) :
    accepted (first ++ second) = accepted first ++ accepted second := by
  simp [accepted]

/-- A dispatch that begins leaves the listeners alone. -/
theorem dispatch_listeners (b : Bridge H) (e : Event) :
    (b.play (.dispatch e)).2.listeners = b.listeners := by
  cases registered : b.isRegistered e.id with
  | false => rw [play_dispatch_of_free registered]
  | true => rw [play_dispatch registered]

/-- Only offers and the owners of listeners change the listeners. -/
theorem play_listeners (b : Bridge H) (t : Turn H) :
    (b.play t).2.listeners =
      match t with
      | .offer i e => (b.listeners.offer i e).2
      | .listeners a => (b.listeners.act a).2
      | _ => b.listeners := by
  cases t with
  | move m operation => exact take_listeners operation b
  | dispatch e => exact dispatch_listeners b e
  | leave => exact leave_listeners b
  | _ => rfl

/-- A turn keeps the listeners in tune. -/
theorem tuned_play (tuned : b.listeners.Tuned) (t : Turn H) : (b.play t).2.listeners.Tuned := by
  rw [play_listeners]
  cases t with
  | offer i e => exact tuned.offer i e
  | listeners a => exact tuned.act a
  | _ => exact tuned

theorem tuned_playAll (tuned : b.listeners.Tuned) (turns : List (Turn H)) :
    (b.playAll turns).listeners.Tuned := by
  induction turns generalizing b with
  | nil => exact tuned
  | cons t rest ih => exact ih (tuned_play tuned t)

/-! ## One listener -/

/-- What a turn does to a listener: it takes what it is offered, and its owner takes turns. -/
def effect (i : Nat) (t : Turn H) (x : Listener) : List Event × Listener :=
  match t with
  | .offer j e => if j = i then ([], x.receive e) else ([], x)
  | .listeners a => if a.listener? = some i then a.apply x else ([], x)
  | _ => ([], x)

/-- What a turn does to one listener depends on the turn and this listener alone. -/
theorem play_listener {x : Listener} (found : b.listeners.get? i = some x) (t : Turn H) :
    readAt i (t, (b.play t).1) = (effect i t x).1 ∧
      (b.play t).2.listeners.get? i = some (effect i t x).2 := by
  rw [play_listeners]
  cases t with
  | offer j e =>
    refine ⟨?_, (b.listeners.offer_get? j i e).trans ?_⟩
    · simp only [effect]
      split <;> rfl
    · by_cases own : j = i
      · simp [effect, own, found]
      · simp [effect, own, Ne.symm own, found]
  | listeners a =>
    simp only [play, readAt, effect]
    by_cases own : a.listener? = some i
    · rw [if_pos own, if_pos own, Listeners.act_read own found, Listeners.act_get? own, if_pos rfl,
        found]
      exact ⟨rfl, rfl⟩
    · rw [if_neg own, if_neg own]
      refine ⟨rfl, (Listeners.act_get?_other own ?_).trans found⟩
      rintro - rfl
      rw [Listeners.get?_of_le (Nat.le_refl _)] at found
      cases found
  | _ => exact ⟨rfl, found⟩

theorem offer?_eq {x : Listener} (found : b.listeners.get? i = some x) (t : Turn H) :
    b.offer? i t =
      match t with
      | .offer j e => if j = i ∧ x.isOpen = true then some (e, x.queue.length) else none
      | _ => none := by
  cases t with
  | offer j e =>
    have isOpen : b.listeners.open? i = if x.isOpen then some x else none := by
      simp [Listeners.open?, found, Option.filter]
    by_cases own : j = i <;> cases h : x.isOpen <;> simp [offer?, own, isOpen, h]
  | _ => rfl

/-- A turn moves events through the queue of a listener, unless it closes the listener. -/
theorem effect_stream {x : Listener} (found : b.listeners.get? i = some x) (t : Turn H) :
    (effect i t x).1 ++ (effect i t x).2.queue = x.queue ++ accepted (b.offer? i t).toList ∨
      (effect i t x).1 = [] ∧ (effect i t x).2 = { isOpen := false, queue := [] } := by
  rw [offer?_eq found]
  cases t with
  | offer j e =>
    refine .inl ?_
    by_cases own : j = i
    · cases isOpen : x.isOpen with
      | false => simp [effect, own, accepted, Listener.receive_of_closed isOpen]
      | true =>
        by_cases room : x.queue.length < capacity <;>
          simp [effect, own, accepted, Listener.receive, isOpen, room]
    · simp [effect, own, accepted]
  | listeners a =>
    simp only [effect]
    by_cases own : a.listener? = some i
    · rw [if_pos own]
      cases a with
      | subscribe => cases own
      | cleanup => cases own
      | close j => exact .inr ⟨rfl, rfl⟩
      | drain j => exact .inl (by simp [Listeners.Act.apply, accepted])
      | take j =>
        refine .inl ?_
        obtain ⟨isOpen, queue⟩ := x
        cases isOpen <;> cases queue <;> simp [Listeners.Act.apply, accepted]
    · rw [if_neg own]
      exact .inl (by simp [accepted])
  | _ => exact .inl (by simp [effect, accepted])

/-- Nobody is offered anything or reads anything in the place of a listener that is not there. -/
theorem play_absent (absent : b.listeners.get? i = none) (t : Turn H) :
    readAt i (t, (b.play t).1) = [] ∧ b.offer? i t = none ∧
      (b.play t).2.listeners.queue i = [] := by
  have closed : b.listeners.open? i = none := by rw [Listeners.open?, absent]; rfl
  have gone : b.listeners.queue i = [] := by rw [Listeners.queue, absent]; rfl
  rw [play_listeners]
  cases t with
  | offer j e =>
    refine ⟨rfl, by simp [offer?, closed], ?_⟩
    simp [Listeners.queue, Listeners.offer_get?, absent]
  | listeners a =>
    simp only [play, readAt, Listeners.queue]
    by_cases own : a.listener? = some i
    · rw [if_pos own, Listeners.act_read_of_none own absent, Listeners.act_get? own, absent]
      exact ⟨rfl, rfl, by simp⟩
    · rw [if_neg own]
      refine ⟨rfl, rfl, ?_⟩
      by_cases new : a = .subscribe ∧ i = b.listeners.all.length
      · obtain ⟨rfl, rfl⟩ := new
        rw [show (b.listeners.act .subscribe).2.get? _ = _ from Listeners.subscribe_get? ..,
          if_pos rfl]
        rfl
      · rw [Listeners.act_get?_other own fun same last => new ⟨same, last⟩, absent]
        rfl
  | _ => exact ⟨rfl, rfl, gone⟩

/-! ## Listeners that have closed -/

theorem play_closed (closed : b.listeners.get? i = some { isOpen := false, queue := [] })
    (t : Turn H) :
    readAt i (t, (b.play t).1) = [] ∧
      (b.play t).2.listeners.get? i = some { isOpen := false, queue := [] } := by
  have still : effect i t { isOpen := false, queue := [] } =
      ([], { isOpen := false, queue := [] }) := by
    cases t with
    | offer j e => simp [effect, Listener.receive]
    | listeners a =>
      simp only [effect]
      split
      · cases a <;> rfl
      · rfl
    | _ => rfl
  obtain ⟨read, kept⟩ := play_listener closed t
  rw [still] at read kept
  exact ⟨read, kept⟩

/-- A listener that has closed stays closed and empty. -/
theorem closed_playAll (closed : b.listeners.get? i = some { isOpen := false, queue := [] })
    (turns : List (Turn H)) :
    (b.playAll turns).listeners.get? i = some { isOpen := false, queue := [] } := by
  induction turns generalizing b with
  | nil => exact closed
  | cons t rest ih => exact ih (play_closed closed t).2

/-- A listener that has closed does not open again. -/
theorem isOpen_of_closed (closed : b.listeners.get? i = some { isOpen := false, queue := [] })
    (turns : List (Turn H)) : (b.playAll turns).listeners.isOpen i = false := by
  rw [Listeners.isOpen_eq, closed_playAll closed turns]
  rfl

theorem reads_of_closed (closed : b.listeners.get? i = some { isOpen := false, queue := [] })
    (turns : List (Turn H)) : reads i b turns = [] := by
  induction turns generalizing b with
  | nil => rfl
  | cons t rest ih =>
    obtain ⟨read, kept⟩ := play_closed closed t
    simp only [reads, transcript, List.flatMap_cons, read]
    exact ih kept

/-- Nothing is offered to a listener that has closed. -/
theorem offers_of_closed (closed : b.listeners.get? i = some { isOpen := false, queue := [] })
    (turns : List (Turn H)) : offers i b turns = [] := by
  induction turns generalizing b with
  | nil => rfl
  | cons t rest ih =>
    have none : b.offer? i t = none := by
      rw [offer?_eq closed]
      cases t <;> simp
    rw [offers, collect, none]
    exact ih (play_closed closed t).2

/-! ## The queue over all turns -/

/-- A turn moves events through the queue, whether the listener is there or not, or closes the
listener. -/
theorem play_stream (b : Bridge H) (i : Nat) (t : Turn H) :
    readAt i (t, (b.play t).1) ++ (b.play t).2.listeners.queue i =
        b.listeners.queue i ++ accepted (b.offer? i t).toList ∨
      readAt i (t, (b.play t).1) = [] ∧
        (b.play t).2.listeners.get? i = some { isOpen := false, queue := [] } := by
  cases found : b.listeners.get? i with
  | none =>
    obtain ⟨read, offered, queue⟩ := play_absent found t
    refine .inl ?_
    rw [read, offered, queue, Listeners.queue, found]
    rfl
  | some x =>
    obtain ⟨read, kept⟩ := play_listener found t
    have before : b.listeners.queue i = x.queue := by rw [Listeners.queue, found]; rfl
    have after : (b.play t).2.listeners.queue i = (effect i t x).2.queue := by
      rw [Listeners.queue, kept]
      rfl
    rw [read, before, after, kept]
    exact (effect_stream found t).imp_right fun ⟨nothing, closed⟩ =>
      ⟨nothing, congrArg some closed⟩

/-- What has been read and what still waits is what was accepted, in the same order, unless the
listener has closed and lost what was waiting. -/
theorem reads_eq (b : Bridge H) (i : Nat) (turns : List (Turn H)) :
    reads i b turns ++ (b.playAll turns).listeners.queue i <+:
        b.listeners.queue i ++ accepted (offers i b turns) ∧
      ((b.playAll turns).listeners.isOpen i = true →
        reads i b turns ++ (b.playAll turns).listeners.queue i =
          b.listeners.queue i ++ accepted (offers i b turns)) := by
  induction turns generalizing b with
  | nil =>
    have same : reads i b ([] : List (Turn H)) ++ b.listeners.queue i =
        b.listeners.queue i ++ accepted (offers i b []) := (List.append_nil _).symm
    exact ⟨⟨[], (List.append_nil _).trans same⟩, fun _ => same⟩
  | cons t rest ih =>
    have read : reads i b (t :: rest) =
        readAt i (t, (b.play t).1) ++ reads i (b.play t).2 rest := rfl
    have offered : accepted (offers i b (t :: rest)) =
        accepted (b.offer? i t).toList ++ accepted (offers i (b.play t).2 rest) :=
      accepted_append ..
    rw [read, offered, playAll]
    cases play_stream b i t with
    | inl moved =>
      obtain ⟨prefixed, exactly⟩ := ih (b.play t).2
      rw [← List.append_assoc, ← moved, List.append_assoc, List.append_assoc]
      exact ⟨(List.prefix_append_right_inj _).mpr prefixed,
        fun isOpen => congrArg _ (exactly isOpen)⟩
    | inr closed =>
      obtain ⟨nothing, closed⟩ := closed
      rw [nothing, reads_of_closed closed, isOpen_of_closed closed, Listeners.queue,
        closed_playAll closed]
      exact ⟨List.nil_prefix, fun isOpen => absurd isOpen Bool.false_ne_true⟩

/-! ## One listener and the others -/

/-- Whether a turn can concern a listener: all but what happens to others, and cleaning up. -/
def Turn.concerns (i : Nat) : Turn H → Bool
  | .offer j _ => j == i
  | .listeners a => a.concerns i
  | _ => true

/-- A turn that concerns a listener does the same to two bridges that cannot be told apart from its
place. -/
theorem play_alike {l : Listeners} (alike : Listeners.Alike i b.listeners l) {t : Turn H}
    (concerned : t.concerns i = true) :
    ∃ l', (b.tune l).play t = ((b.play t).1, (b.play t).2.tune l') ∧
      Listeners.Alike i (b.play t).2.listeners l' := by
  rw [play_listeners]
  cases t with
  | move m operation => exact ⟨l, by simp only [play, deaf_take operation b l], alike⟩
  | dispatch e =>
    refine ⟨l, ?_, alike⟩
    cases registered : b.isRegistered e.id with
    | false =>
      have free : (b.tune l).isRegistered e.id = false := registered
      rw [play_dispatch_of_free registered, play_dispatch_of_free free]
    | true =>
      have live : (b.tune l).isRegistered e.id = true := registered
      rw [play_dispatch registered, play_dispatch live]
      rfl
  | offer j e =>
    obtain rfl : j = i := beq_iff_eq.mp concerned
    exact ⟨(l.offer j e).2, rfl, alike.offer e⟩
  | listeners a =>
    obtain ⟨read, alike⟩ := alike.act concerned
    refine ⟨(l.act a).2, ?_, alike⟩
    simp only [play, read, tune_listeners]
    rfl
  | call => exact ⟨l, rfl, alike⟩
  | leave => exact ⟨l, congrArg (Prod.mk _) (leave_tune b l), alike⟩

/-- A turn that does not concern a listener makes no difference from its place. -/
theorem skip_alike {l : Listeners} (alike : Listeners.Alike i b.listeners l) {t : Turn H}
    (unconcerned : t.concerns i = false) :
    (b.play t).2.tune l = b.tune l ∧ Listeners.Alike i (b.play t).2.listeners l := by
  cases t with
  | offer j e => exact ⟨rfl, alike.skip_offer (beq_eq_false_iff_ne.mp unconcerned) e⟩
  | listeners a => exact ⟨rfl, alike.skip unconcerned⟩
  | _ => cases unconcerned

/-- The turns that do not concern a listener can be left out: all other turns come to the same, and
so does the listener. -/
theorem transcript_alike {l : Listeners} (alike : Listeners.Alike i b.listeners l)
    (turns : List (Turn H)) :
    (b.transcript turns).filter (fun entry => entry.1.concerns i) =
        (b.tune l).transcript (turns.filter (Turn.concerns i)) ∧
      ∃ l', (b.tune l).playAll (turns.filter (Turn.concerns i)) = (b.playAll turns).tune l' ∧
        Listeners.Alike i (b.playAll turns).listeners l' := by
  induction turns generalizing b l with
  | nil => exact ⟨rfl, l, rfl, alike⟩
  | cons t rest ih =>
    cases concerned : t.concerns i with
    | true =>
      obtain ⟨l', played, alike'⟩ := play_alike alike concerned
      obtain ⟨same, last⟩ := ih alike'
      simp only [List.filter_cons, concerned, if_true, transcript, playAll, played]
      exact ⟨congrArg _ same, last⟩
    | false =>
      obtain ⟨tuned, alike'⟩ := skip_alike alike concerned
      have later := ih alike'
      rw [tuned] at later
      simp only [List.filter_cons, concerned, transcript]
      exact later

end Bridge

end Hotkeys
