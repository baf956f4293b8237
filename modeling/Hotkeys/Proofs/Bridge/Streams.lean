import Hotkeys.Proofs.Bridge.Offers

/-!
# What every listener hears

Each listener that is open is offered every event that is dispatched to a registered identifier,
once and in the order of the dispatches. It misses the events that come while its queue is full,
and it reads all others in their order. A listener that has closed is forgotten when the next event
is announced.

## Implementation notes

`due` looks at the beginnings of dispatches only, and `offers` at the offers only. An announcement
makes one of the other, because every open listener is among those that events are sent to, and
none is there twice.
-/

namespace Hotkeys

namespace Bridge

variable {H : Type} {b : Bridge H} {i : Nat} {e : Event} {indices : List Nat}
  {turns block : List (Turn H)}

/-! ## Events that are due -/

/-- What a listener ought to be offered: an event that is dispatched to a registered identifier
while the listener is open. -/
def due? (b : Bridge H) (i : Nat) : Turn H → Option Event
  | .dispatch e => if b.isRegistered e.id && b.listeners.isOpen i then some e else none
  | _ => none

/-- All that a listener ought to be offered. -/
def due (i : Nat) (b : Bridge H) (turns : List (Turn H)) : List Event :=
  collect (fun b => b.due? i) b turns

/-! ## Listeners over many turns -/

theorem found_playAll {x : Listener} (found : b.listeners.get? i = some x)
    (turns : List (Turn H)) : ∃ y, (b.playAll turns).listeners.get? i = some y := by
  induction turns generalizing b x with
  | nil => exact ⟨x, found⟩
  | cons t rest ih => exact ih (play_listener found t).2

/-- A listener is open until its owner closes it. -/
theorem isOpen_play (isOpen : b.listeners.isOpen i = true) {t : Turn H}
    (kept : t ≠ .listeners (.close i)) : (b.play t).2.listeners.isOpen i = true := by
  obtain ⟨x, found, isOpen⟩ := Listeners.isOpen_iff.mp isOpen
  refine Listeners.isOpen_iff.mpr ⟨_, (play_listener found t).2, ?_⟩
  cases t with
  | offer j e =>
    simp only [effect]
    split
    · exact (x.receive_isOpen e).trans isOpen
    · exact isOpen
  | listeners a =>
    simp only [effect]
    split
    · rename_i own
      cases a with
      | close j =>
        cases own
        exact absurd rfl kept
      | take j =>
        simp only [Listeners.Act.apply]
        split <;> exact isOpen
      | _ => exact isOpen
    · exact isOpen
  | _ => exact isOpen

theorem gone_playAll (gone : b.listeners.Gone i) (turns : List (Turn H)) :
    (b.playAll turns).listeners.Gone i := by
  induction turns generalizing b with
  | nil => exact gone
  | cons t rest ih =>
    refine ih ?_
    rw [play_listeners]
    cases t with
    | offer j e => exact gone.offer j e
    | listeners a => exact gone.act a
    | _ => exact gone

/-! ## Announcements -/

/-- What stands between the offers neither makes an event due nor offers one. -/
theorem Turn.quiet {t : Turn H} (aside : t.isAside = true) (b : Bridge H) (i : Nat) :
    b.offer? i t = none ∧ b.due? i t = none := by
  cases t with
  | move m operation => exact ⟨rfl, rfl⟩
  | listeners a => exact ⟨rfl, rfl⟩
  | _ => cases aside

theorem Announcement.mem_cases (announcement : Announcement e indices block) {t : Turn H}
    (member : t ∈ block) : t.isAside = true ∨ ∃ j ∈ indices, t = .offer j e := by
  induction announcement with
  | nil => cases member
  | @offer j rest asides turns only others ih =>
    obtain rfl | member := List.mem_cons.mp member
    · exact .inr ⟨j, List.mem_cons_self, rfl⟩
    · cases List.mem_append.mp member with
      | inl between => exact .inl (only t between)
      | inr later =>
        refine (ih later).imp_right ?_
        rintro ⟨k, known, rfl⟩
        exact ⟨k, List.mem_cons_of_mem j known, rfl⟩

theorem Announcement.due (announcement : Announcement e indices block) : due i b block = [] := by
  refine collect_eq_nil (fun t member b => ?_) b
  obtain aside | ⟨j, -, rfl⟩ := announcement.mem_cases member
  · exact (Turn.quiet aside b i).2
  · rfl

theorem Announcement.offers_of_notMem (announcement : Announcement e indices block)
    (other : i ∉ indices) : offers i b block = [] := by
  refine collect_eq_nil (fun t member b => ?_) b
  obtain aside | ⟨j, known, rfl⟩ := announcement.mem_cases member
  · exact (Turn.quiet aside b i).1
  · refine if_neg ?_
    rintro rfl
    exact other known

/-- A listener is offered the event that is announced, unless it closes before its turn comes. -/
theorem Announcement.offers_of_mem (announcement : Announcement e indices block)
    (once : indices.Nodup) (member : i ∈ indices) (tuned : b.listeners.Tuned) {x : Listener}
    (found : b.listeners.get? i = some x) :
    (offers i b block).map Prod.fst <+: [e] ∧
      ((b.playAll block).listeners.isOpen i = true → (offers i b block).map Prod.fst = [e]) := by
  induction announcement generalizing b x with
  | nil => cases member
  | @offer j rest asides turns only others ih =>
    obtain ⟨fresh, once⟩ := List.nodup_cons.mp once
    have silent : ∀ b : Bridge H, collect (fun b => b.offer? i) b asides = [] :=
      collect_eq_nil fun t member b => (Turn.quiet (only t member) b i).1
    have all : offers i b (.offer j e :: (asides ++ turns)) = (b.offer? i (.offer j e)).toList ++
        offers i ((b.play (.offer j e)).2.playAll asides) turns := by
      rw [offers, collect, collect_append, silent, List.nil_append]
      rfl
    cases List.mem_cons.mp member with
    | inl own =>
      subst own
      rw [all, others.offers_of_notMem fresh, offer?_eq found]
      cases isOpen : x.isOpen with
      | true => simp
      | false =>
        have closed : b.listeners.isOpen i = false := by
          rw [Listeners.isOpen_eq, found]
          exact isOpen
        rw [isOpen_of_closed (tuned.get?_of_closed found closed)]
        exact ⟨by simp, fun isOpen => absurd isOpen Bool.false_ne_true⟩
    | inr later =>
      have other : j ≠ i := by
        rintro rfl
        exact fresh later
      obtain ⟨y, kept⟩ := found_playAll found (.offer j e :: asides)
      rw [all, show b.offer? i (.offer j e) = none from if_neg other, playAll, playAll_append]
      exact ih once later (tuned_playAll tuned (.offer j e :: asides)) kept

/-- An announcement offers its event to every listener that is open, and to no other one. -/
theorem Announcement.offers (announcement : Announcement e b.listeners.senders block)
    (tuned : b.listeners.Tuned) (i : Nat) :
    (offers i b block).map Prod.fst <+: (if b.listeners.isOpen i then [e] else []) ∧
      ((b.listeners.isOpen i = true → (b.playAll block).listeners.isOpen i = true) →
        (offers i b block).map Prod.fst = if b.listeners.isOpen i then [e] else []) := by
  by_cases isOpen : b.listeners.isOpen i = true
  · obtain ⟨x, found, -⟩ := Listeners.isOpen_iff.mp isOpen
    rw [if_pos isOpen]
    obtain ⟨prefixed, exactly⟩ :=
      announcement.offers_of_mem tuned.nodup (tuned.sent isOpen) tuned found
    exact ⟨prefixed, fun kept => exactly (kept isOpen)⟩
  · have nothing : Bridge.offers i b block = [] := by
      cases found : b.listeners.get? i with
      | some x =>
        have closed := tuned.get?_of_closed found (Bool.eq_false_iff.mpr isOpen)
        exact offers_of_closed closed block
      | none =>
        refine announcement.offers_of_notMem fun member => ?_
        have known := tuned.known i member
        exact absurd (List.getElem?_eq_none_iff.mp found) (Nat.not_le.mpr known)
    rw [if_neg isOpen, nothing]
    exact ⟨List.nil_prefix, fun _ => rfl⟩

theorem Announcement.forgets_of_mem (announcement : Announcement e indices block)
    (member : i ∈ indices)
    (closed : b.listeners.get? i = some { isOpen := false, queue := [] }) :
    (b.playAll block).listeners.Gone i := by
  induction announcement generalizing b with
  | nil => cases member
  | @offer j rest asides turns only others ih =>
    rw [playAll, playAll_append]
    cases List.mem_cons.mp member with
    | inl own =>
      subst own
      have known : i < b.listeners.all.length := (List.getElem?_eq_some_iff.mp closed).1
      have isClosed : b.listeners.isOpen i = false := by
        rw [Listeners.isOpen_eq, closed]
        rfl
      have gone : (b.play (.offer i e)).2.listeners.Gone i := .of_offer known isClosed e
      exact gone_playAll (gone_playAll gone asides) turns
    | inr later => exact ih later (closed_playAll closed (.offer j e :: asides))

/-- An announcement forgets every listener that had closed before. -/
theorem Announcement.forgets (announcement : Announcement e b.listeners.senders block)
    (tuned : b.listeners.Tuned) {x : Listener} (found : b.listeners.get? i = some x)
    (closed : b.listeners.isOpen i = false) : (b.playAll block).listeners.Gone i := by
  have known : i < b.listeners.all.length := (List.getElem?_eq_some_iff.mp found).1
  by_cases member : i ∈ b.listeners.senders
  · exact announcement.forgets_of_mem member (tuned.get?_of_closed found closed)
  · exact gone_playAll ⟨known, member⟩ block

/-- If a listener is offered what is due to it after an announcement, it is offered the event and
what is due afterwards. -/
theorem Announcement.offers_append (announcement : Announcement e b.listeners.senders block)
    (tuned : b.listeners.Tuned) (i : Nat)
    (later : (Bridge.offers i (b.playAll block) turns).map Prod.fst <+:
        Bridge.due i (b.playAll block) turns ∧
      (((b.playAll block).playAll turns).listeners.isOpen i = true →
        (Bridge.offers i (b.playAll block) turns).map Prod.fst =
          Bridge.due i (b.playAll block) turns)) :
    let due := (if b.listeners.isOpen i then [e] else []) ++ Bridge.due i (b.playAll block) turns
    (Bridge.offers i b (block ++ turns)).map Prod.fst <+: due ∧
      (((b.playAll block).playAll turns).listeners.isOpen i = true →
        (Bridge.offers i b (block ++ turns)).map Prod.fst = due) := by
  intro due
  obtain ⟨prefixed, exactly⟩ := announcement.offers tuned i
  have split : Bridge.offers i b (block ++ turns) =
      Bridge.offers i b block ++ Bridge.offers i (b.playAll block) turns := collect_append ..
  rw [split, List.map_append]
  by_cases kept : b.listeners.isOpen i = true → (b.playAll block).listeners.isOpen i = true
  · rw [exactly kept]
    exact ⟨(List.prefix_append_right_inj _).mpr later.1,
      fun isOpen => congrArg _ (later.2 isOpen)⟩
  · -- it has closed during the announcement
    obtain ⟨isOpen, closed⟩ := Classical.not_imp.mp kept
    obtain ⟨x, found, -⟩ := Listeners.isOpen_iff.mp isOpen
    obtain ⟨y, found⟩ := found_playAll found block
    have ended := (tuned_playAll tuned block).get?_of_closed found (Bool.eq_false_iff.mpr closed)
    rw [offers_of_closed ended, isOpen_of_closed ended]
    refine ⟨?_, fun isOpen => absurd isOpen Bool.false_ne_true⟩
    rw [List.map_nil, List.append_nil]
    exact prefixed.trans (List.prefix_append ..)

/-- What a listener is offered is what is due to it. Only the last event may be missing, if the
listener has closed before its turn came. -/
theorem Announced.offers (announced : b.Announced turns) (tuned : b.listeners.Tuned) (i : Nat) :
    (offers i b turns).map Prod.fst <+: due i b turns ∧
      ((b.playAll turns).listeners.isOpen i = true →
        (offers i b turns).map Prod.fst = due i b turns) := by
  induction announced with
  | nil b => exact ⟨List.nil_prefix, fun _ => rfl⟩
  | @aside b t rest aside _ ih =>
    obtain ⟨offered, due⟩ := Turn.quiet aside b i
    rw [Bridge.offers, Bridge.due, collect, collect, offered, due]
    exact ih (tuned_play tuned t)
  | @ignored b e rest free _ ih =>
    have quiet : b.due? i (.dispatch e) = none := by simp [due?, free]
    rw [Bridge.offers, Bridge.due, collect, collect, quiet, playAll, play_dispatch_of_free free]
    exact ih tuned
  | @dispatch b e block rest registered announcement _ ih =>
    have same := dispatch_listeners b e
    have tuned' := tuned_play tuned (.dispatch e)
    rw [← same] at announcement
    have dues : Bridge.due i b (.dispatch e :: (block ++ rest)) =
        (if (b.play (.dispatch e)).2.listeners.isOpen i then [e] else []) ++
          Bridge.due i ((b.play (.dispatch e)).2.playAll block) rest := by
      have first : (b.due? i (.dispatch e)).toList =
          if (b.play (.dispatch e)).2.listeners.isOpen i then [e] else [] := by
        rw [same, due?, registered]
        cases b.listeners.isOpen i <;> rfl
      have quiet : collect (fun b => b.due? i) (b.play (.dispatch e)).2 block = [] :=
        announcement.due
      rw [Bridge.due, collect, collect_append, first, quiet]
      rfl
    rw [dues, playAll, playAll_append]
    exact announcement.offers_append tuned' i (ih (tuned_playAll tuned' block))
  | call _ ih => exact ih tuned
  | @leave b rest _ ih => exact ih (tuned_play tuned .leave)

/-! ## What has been heard -/

/-- What a listener hears of some turns. It has been offered, in the order of the dispatches, one copy
of each event that was due. Only the last one may be missing, if it has closed before its turn came.
What its owner has read, and then what still waits, are the offered events for which there was room,
that is, all but those that came while 64 events waited. A listener that is open is one that events
are sent to, and nothing but its owner closes it. -/
structure Hears (start : Bridge H) (turns : List (Turn H)) (i : Nat) : Prop where
  bounded : ((start.playAll turns).listeners.queue i).length ≤ Listeners.capacity
  offered : (start.offers i turns).map Prod.fst <+: start.due i turns
  read : start.reads i turns ++ (start.playAll turns).listeners.queue i <+:
    accepted (start.offers i turns)
  offered_all : (start.playAll turns).listeners.isOpen i = true →
    (start.offers i turns).map Prod.fst = start.due i turns
  read_all : (start.playAll turns).listeners.isOpen i = true →
    start.reads i turns ++ (start.playAll turns).listeners.queue i =
      accepted (start.offers i turns)
  sent : (start.playAll turns).listeners.isOpen i = true →
    i ∈ (start.playAll turns).listeners.senders
  stays : (start.playAll turns).listeners.isOpen i = true →
    ∀ next, next ≠ .listeners (.close i) →
      ((start.playAll turns).play next).2.listeners.isOpen i = true

theorem Announced.hears {start : Bridge H} (announced : start.Announced turns)
    (tuned : start.listeners.Tuned) (empty : start.listeners.queue i = []) :
    start.Hears turns i where
  bounded := by
    cases found : (start.playAll turns).listeners.get? i with
    | none => simp [Listeners.queue, found]
    | some x => simpa [Listeners.queue, found] using ((tuned_playAll tuned turns).sound found).bounded
  offered := (announced.offers tuned i).1
  read := by simpa [empty] using (reads_eq start i turns).1
  offered_all := (announced.offers tuned i).2
  read_all := by simpa [empty] using (reads_eq start i turns).2
  sent := (tuned_playAll tuned turns).sent
  stays isOpen _ kept := isOpen_play isOpen kept

/-- What happens to other listeners can be left out without any difference to all other turns and to
the listener. -/
structure Undisturbed (start : Bridge H) (turns : List (Turn H)) (i : Nat) : Prop where
  transcript : (start.transcript turns).filter (fun entry => entry.1.concerns i) =
    start.transcript (turns.filter (Turn.concerns i))
  listener : (start.playAll turns).listeners.get? i =
    (start.playAll (turns.filter (Turn.concerns i))).listeners.get? i

theorem undisturbed_of_tuned {start : Bridge H} (tuned : start.listeners.Tuned)
    (turns : List (Turn H)) (i : Nat) : start.Undisturbed turns i := by
  have alike : Listeners.Alike i start.listeners start.listeners := ⟨tuned, tuned, rfl, rfl⟩
  obtain ⟨same, l', played, alike'⟩ := transcript_alike alike turns
  refine ⟨same, alike'.same.trans ?_⟩
  rw [tune_self] at played
  rw [played]
  rfl

/-- A cleanup leaves only listeners that are open. -/
theorem isOpen_of_mem_cleanup (b : Bridge H) {j : Nat}
    (kept : j ∈ (b.play (.listeners .cleanup)).2.listeners.senders) :
    (b.play (.listeners .cleanup)).2.listeners.isOpen j = true := List.of_mem_filter kept

end Bridge

namespace Stage

open Bridge Listeners

variable {σ H : Type} {t : Stage σ H}

/-- What a dispatch adds to the turns that have been taken. To an identifier that is not registered it
does nothing. Any other one announces the event first, and the listeners that have closed are
forgotten. What the handler does comes after that, and it alone decides what the dispatch comes to. -/
structure Broadcasts (t : Stage σ H) (start : Bridge H) (turns : List (Turn H)) (e : Event)
    (s : σ) : Prop where
  ignored : (start.playAll turns).isRegistered e.id = false → t.dispatch e s = (.returned false, s)
  announced : (start.playAll turns).isRegistered e.id = true → ∃ block inner,
    let b := start.playAll turns
    let heard := b.playAll (.dispatch e :: block)
    let after := turns ++ .dispatch e :: (block ++ .call :: (inner ++ [.leave]))
    Announcement e b.listeners.senders block ∧ start.Announced after ∧
    t.bridge (t.dispatch e s).2 = start.playAll after ∧
    (∀ j x, b.listeners.get? j = some x → x.isOpen = false →
      j ∉ heard.listeners.senders ∧ j ∉ (start.playAll after).listeners.senders) ∧
    match heard.current? with
    | none => inner = [] ∧ (t.dispatch e s).1 = .returned false
    | some h => ∃ s', t.bridge s' = heard ∧ (t.dispatch e s).1 = (t.call h e s').1 ∧
        t.bridge (t.call h e s').2 = heard.playAll inner

theorem Sequential.broadcasts (sequential : t.Sequential) {start : Bridge H} {turns : List (Turn H)}
    (announced : start.Announced turns) (tuned : (start.playAll turns).listeners.Tuned) {s : σ}
    (reached : t.bridge s = start.playAll turns) (e : Event) : t.Broadcasts start turns e s := by
  refine ⟨fun free => dispatch_of_free (reached ▸ free), fun registered => ?_⟩
  obtain ⟨block, inner, announcement, later, ended, result⟩ :=
    sequential.dispatch (e := e) (s := s) (reached ▸ registered)
  rw [reached] at announcement later ended result
  have after : start.playAll (turns ++ .dispatch e :: (block ++ .call :: (inner ++ [.leave]))) =
      ((start.playAll turns).playAll (.dispatch e :: block)).playAll
        (.call :: (inner ++ [.leave])) := by
    rw [playAll_append, ← List.cons_append, playAll_append]
  refine ⟨block, inner, announcement, announced.append ?_, ended.trans after.symm, ?_, result⟩
  · exact .dispatch registered announcement (.call (later.append (.leave (.nil _))))
  · intro j x found closed
    have isClosed : (start.playAll turns).listeners.isOpen j = false := by
      rw [isOpen_eq, found]
      exact closed
    have same := dispatch_listeners (start.playAll turns) e
    have gone :
        ((start.playAll turns).playAll (.dispatch e :: block)).listeners.Gone j := by
      rw [← same] at announcement tuned found isClosed
      exact announcement.forgets tuned found isClosed
    refine ⟨gone.unsent, ?_⟩
    rw [after]
    exact (gone_playAll gone _).unsent

/-- In every state that a bridge and its listeners can reach by taking turns, each listener hears what
is due to it, whatever happens to other ones. A cleanup leaves only listeners that are open, and a
dispatch adds turns to those that have been taken, so all of this holds afterwards as well. -/
theorem Sequential.streams_run (sequential : t.Sequential) (backend : Backend) (strict : Bool)
    (turns : List (Turn H)) (announced : (new backend strict : Bridge H).Announced turns) :
    let start : Bridge H := new backend strict
    let b := start.playAll turns
    (∀ i, start.Hears turns i ∧ start.Undisturbed turns i) ∧
    (∀ j ∈ (b.play (.listeners .cleanup)).2.listeners.senders,
      (b.play (.listeners .cleanup)).2.listeners.isOpen j = true) ∧
    ∀ s e, t.bridge s = b → t.Broadcasts start turns e s := by
  intro start b
  have fresh : start.listeners.Tuned := Tuned.none
  refine ⟨fun i => ⟨announced.hears fresh rfl, undisturbed_of_tuned fresh turns i⟩, ?_, ?_⟩
  · exact fun j kept => b.isOpen_of_mem_cleanup kept
  · exact fun s e reached => sequential.broadcasts announced (tuned_playAll fresh turns) reached e

/-- The handler `true` sends another event before it ends. -/
def relay : Bool → List (Errand Bool)
  | true => [.dispatch ⟨2, true⟩]
  | false => []

/-- A listener hears of an event before it hears of the one that the handler sends. -/
theorem streams_run_relay :
    let t : Stage (Bridge Bool) Bool := alone (attend relay (fun _ => .returned true) 1)
    let start : Bridge Bool := new (.simulated {}) true
    let turns : List (Turn Bool) :=
      [.move (.registerAndBind {} none 1 { key := 0x00 } true) rfl,
        .move (.registerAndBind {} none 2 { key := 0x01 } false) rfl, .listeners .subscribe]
    let dispatched := t.dispatch ⟨1, true⟩ (start.playAll turns)
    t.Sequential ∧ start.Announced turns ∧ dispatched.1 = .returned true ∧
      ∃ after, start.Announced after ∧ t.bridge dispatched.2 = start.playAll after ∧
        start.reads 0 after ++ [⟨1, true⟩, ⟨2, true⟩] = accepted (start.offers 0 after) := by
  intro t start turns dispatched
  have sequential : t.Sequential := attend_sequential relay _ 1
  have announced : start.Announced turns :=
    Announced.asides (by simp [turns, Turn.isAside]) start
  have registered : (start.playAll turns).isRegistered 1 = true := by decide
  have returned : dispatched.1 = .returned true := by decide
  have isOpen : (t.bridge dispatched.2).listeners.isOpen 0 = true := by decide
  have queue : (t.bridge dispatched.2).listeners.queue 0 = [⟨1, true⟩, ⟨2, true⟩] := by decide
  obtain ⟨-, -, dispatches⟩ := sequential.streams_run (.simulated {}) true turns announced
  obtain ⟨block, inner, -, later, ended, -⟩ :=
    (dispatches (start.playAll turns) ⟨1, true⟩ rfl).announced registered
  refine ⟨sequential, announced, returned, _, later, ended, ?_⟩
  obtain ⟨streams, -⟩ := sequential.streams_run (.simulated {}) true _ later
  have all := (streams 0).1.read_all
  rw [← ended] at all
  have read := all isOpen
  rwa [queue] at read

end Stage

end Hotkeys
