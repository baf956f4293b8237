import Hotkeys.Proofs.Bridge.Cells
import Hotkeys.Proofs.Bridge.History
import Hotkeys.Proofs.Bridge.Nested

/-!
# Which handlers an event calls

An event that the router hands to a bridge calls one handler at most, and that is the handler of
the latest bind of its identifier. The calls are read off a stage that keeps a list of them and
does everything else as before.
-/

namespace Hotkeys

/-- The router takes an event if its callback does so, and a panic of the callback goes no further.
-/
theorem Router.dispatch_eq_true_iff {κ σ : Type} {call : κ → Event → σ → Ending Bool × σ}
    {r : Router κ} {callback : κ} (installed : r.callback = some callback) (e : Event) (s : σ) :
    (r.dispatch call e s).1 = true ↔ (call callback e s).1 = .returned true := by
  unfold Router.dispatch
  rw [installed]
  dsimp only
  split
  · rename_i answered
    rw [answered, Ending.returned.injEq]
  · rename_i answered
    rw [answered]
    simp

/-- A call of a handler, and how it ended. -/
structure Invocation (H : Type) where
  handler : H
  event : Event
  ending : Ending Bool

namespace Stage

open Bridge

variable {σ H : Type}

/-- Listeners leave the slots alone when they notice something. -/
def Quiet (t : Stage σ H) : Prop :=
  ∀ i s, (t.bridge (t.notice i s)).slots = (t.bridge s).slots

/-- The stage with a list of the calls that are made on it, the latest first. What a handler does
in turn is done without the list, so the list has only what a dispatch calls itself. -/
def watched (t : Stage σ H) : Stage (σ × List (Invocation H)) H where
  bridge s := t.bridge s.1
  update f s := (t.update f s.1, s.2)
  notice i s := (t.notice i s.1, s.2)
  call handler e s :=
    let (ending, after) := t.call handler e s.1
    (ending, after, ⟨handler, e, ending⟩ :: s.2)

/-- The calls that the callback of the bridge makes when an event comes to it. -/
def invocations (t : Stage σ H) (env : σ → Conditions) (e : Event) (s : σ) :
    List (Invocation H) :=
  (t.watched.answer (fun s => env s.1) e (s, [])).2.2

/-- What a router makes of an event when it hands it to the callback of the bridge: whether the event
is consumed, the state that is left, and all calls that have been made on the way. -/
def routed {κ : Type} (t : Stage σ H) (env : σ → Conditions) (r : Router κ) (e : Event) (s : σ) :
    Bool × σ × List (Invocation H) :=
  r.dispatch (fun _ => t.watched.answer fun s => env s.1) e (s, [])

/-- The calls of a dispatch: the handler that it finds once the listeners have heard of the event.
-/
def called (t : Stage σ H) (e : Event) (s : σ) : List (Invocation H) :=
  match (t.bridge s).enter e.id with
  | none => []
  | some b =>
    let s := t.announce e (t.update (fun _ => b) s)
    match (t.bridge s).current? with
    | none => []
    | some handler => [⟨handler, e, (t.call handler e s).1⟩]

/-! ## The list changes nothing -/

section Watched

variable (t : Stage σ H) (env : σ → Conditions) (e : Event) (s : σ) (calls : List (Invocation H))

theorem watched_bridge : t.watched.bridge (s, calls) = t.bridge s := rfl

theorem watched_update (f : Bridge H → Bridge H) :
    t.watched.update f (s, calls) = (t.update f s, calls) := rfl

theorem watched_notice (i : Nat) : t.watched.notice i (s, calls) = (t.notice i s, calls) := rfl

theorem watched_offer (i : Nat) : t.watched.offer e (s, calls) i = (t.offer e s i, calls) := by
  unfold offer
  dsimp only [watched]
  split <;> rfl

theorem watched_announce : t.watched.announce e (s, calls) = (t.announce e s, calls) := by
  simp only [announce, watched_bridge]
  generalize (t.bridge s).listeners.senders = senders
  induction senders generalizing s with
  | nil => rfl
  | cons i rest ih => rw [List.foldl_cons, List.foldl_cons, watched_offer, ih]

theorem watched_close (env : Conditions) :
    t.watched.close env (s, calls) = (t.close env s, calls) := by
  simp only [close, watched_bridge, watched_update]
  generalize t.update (fun b => (b.shutdown env).2) s = s
  generalize (t.bridge s).listeners.senders = senders
  induction senders generalizing s with
  | nil => rfl
  | cons i rest ih => rw [List.foldl_cons, List.foldl_cons, watched_update, watched_notice, ih]

theorem watched_settle (env : Conditions) :
    t.watched.settle env (s, calls) = (t.settle env s, calls) := by
  unfold settle
  rw [watched_close]
  exact (apply_ite (·, calls) _ _ _).symm

/-- Watching a dispatch changes nothing about it and notes the calls that it makes. -/
theorem watched_dispatch :
    t.watched.dispatch e (s, calls) =
      ((t.dispatch e s).1, (t.dispatch e s).2, t.called e s ++ calls) := by
  simp only [dispatch, called, watched_bridge]
  cases (t.bridge s).enter e.id with
  | none => rfl
  | some b =>
    simp only [watched_update, watched_announce, watched_bridge]
    cases (t.bridge (t.announce e (t.update (fun _ => b) s))).current? with
    | none => rfl
    | some handler => rfl

/-- With the list the callback answers as it does without. -/
theorem watched_answer :
    t.watched.answer (fun s => env s.1) e (s, calls) =
      ((t.answer env e s).1, (t.answer env e s).2,
        (if (t.bridge s).isAlive then t.called e s else []) ++ calls) := by
  unfold answer dispatchHeld
  rw [watched_dispatch]
  dsimp only
  rw [watched_settle]
  change (if (t.bridge s).isAlive then _ else _) = _
  by_cases alive : (t.bridge s).isAlive = true
  · rw [if_pos alive, if_pos alive, if_pos alive]
  · rw [if_neg alive, if_neg alive, if_neg alive]
    rfl

theorem invocations_eq :
    t.invocations env e s = if (t.bridge s).isAlive then t.called e s else [] := by
  rw [invocations, watched_answer, List.append_nil]

/-- The event is consumed if the call succeeds, and a panic is the one of the call. -/
theorem dispatch_ending :
    (t.dispatch e s).1 = ((t.called e s).head?.map (·.ending)).getD (.returned false) := by
  unfold dispatch called
  cases (t.bridge s).enter e.id with
  | none => rfl
  | some b =>
    dsimp only
    cases (t.bridge (t.announce e (t.update (fun _ => b) s))).current? <;> rfl

theorem answer_ending :
    (t.answer env e s).1 =
      ((t.invocations env e s).head?.map (·.ending)).getD (.returned false) := by
  rw [invocations_eq]
  unfold answer
  by_cases alive : (t.bridge s).isAlive = true
  · rw [if_pos alive, if_pos alive]
    exact dispatch_ending t e s
  · rw [if_neg alive, if_neg alive]
    rfl

/-- With the list the router makes of an event what it makes without. -/
theorem routed_eq {κ : Type} {call : κ → Event → σ → Ending Bool × σ} {r : Router κ} {callback : κ}
    (installed : r.callback = some callback) (ours : call callback = t.answer env) :
    t.routed env r e s =
      ((r.dispatch call e s).1, (t.answer env e s).2, t.invocations env e s) := by
  have answer := t.watched_answer env e s []
  rw [List.append_nil, ← t.invocations_eq env e s] at answer
  unfold routed Router.dispatch
  rw [installed]
  dsimp only
  rw [answer, ours]
  split <;> split <;> simp_all

end Watched

/-! ## Which handler it is -/

namespace Lawful

variable {t : Stage σ H} {e : Event} {s : σ}

/-- A dispatch calls nothing but the handler in the slot that it has found when it began. -/
theorem called_eq (lawful : t.Lawful) :
    t.called e s = [] ∨ ∃ c ending, (t.bridge s).isRegistered e.id = true ∧
      (t.bridge s).slots.get? e.id = some c ∧ t.called e s = [⟨c.handler, e, ending⟩] := by
  unfold called
  cases entered : (t.bridge s).enter e.id with
  | none => exact .inl rfl
  | some b =>
    obtain ⟨registered, -⟩ := enter_eq_some_iff.mp entered
    obtain ⟨-, running⟩ := lawful.announce_enter entered
    dsimp only [current?]
    rw [running]
    cases slot : (t.bridge s).slots.get? e.id with
    | none => exact .inl rfl
    | some c =>
      dsimp only
      split
      · exact .inl rfl
      · rename_i handler found
        split at found
        · cases found
          exact .inr ⟨c, _, registered, rfl, rfl⟩
        · cases found

/-- Quiet listeners leave the slots alone while they hear of an event. -/
theorem announce_slots (lawful : t.Lawful) (quiet : t.Quiet) (e : Event) (s : σ) :
    (t.bridge (t.announce e s)).slots = (t.bridge s).slots := by
  have offered : ∀ i s, (t.bridge (t.offer e s i)).slots = (t.bridge s).slots := by
    intro i s
    unfold offer
    dsimp only
    split
    · rw [quiet, lawful.bridge_update]
    · rw [lawful.bridge_update]
  unfold announce
  generalize (t.bridge s).listeners.senders = senders
  induction senders generalizing s with
  | nil => rfl
  | cons i rest ih => exact (ih _).trans (offered i s)

/-- The handler in the slot is called unless a listener has taken it away. -/
theorem called_of_quiet (lawful : t.Lawful) (quiet : t.Quiet) {c : Cell H}
    (registered : (t.bridge s).isRegistered e.id = true)
    (slot : (t.bridge s).slots.get? e.id = some c) (filed : c.id = e.id) :
    ∃ ending, t.called e s = [⟨c.handler, e, ending⟩] := by
  have entered : (t.bridge s).enter e.id =
      some { t.bridge s with running := some c :: (t.bridge s).running } := by
    rw [enter_eq_some_iff, slot]
    exact ⟨registered, rfl⟩
  obtain ⟨-, running⟩ := lawful.announce_enter entered
  have slots := lawful.announce_slots quiet e
    (t.update (fun _ => { t.bridge s with running := some c :: (t.bridge s).running }) s)
  rw [lawful.bridge_update] at slots
  unfold called
  rw [entered]
  dsimp only [current?]
  rw [running, slot]
  dsimp only
  rw [slots, filed]
  dsimp only
  rw [slot]
  simp

section Reached

variable {backend : Backend} {strict : Bool} {moves : List (Move H)}

/-- The router's callback calls what a dispatch of the bridge calls. -/
theorem invocations_eq_called (reached : t.bridge s = (new backend strict).run moves)
    (env : σ → Conditions) (e : Event) : t.invocations env e s = t.called e s := by
  have held : (t.bridge s).held = true := by
    rw [reached]
    exact new_held_run backend strict moves
  rw [invocations_eq, if_pos]
  simp [isAlive, held]

/-- The slot of a registered identifier has the handler that has been bound to it last. -/
theorem slot_eq_lastBound (reached : t.bridge s = (new backend strict).run moves)
    (registered : (t.bridge s).isRegistered e.id = true) :
    ((t.bridge s).slots.get? e.id).map (·.handler) =
      lastBound ((new backend strict).log moves) e.id := by
  rw [reached] at registered ⊢
  exact slot_run backend strict moves registered

/-- A dispatch calls nothing, or the handler that has been bound last, once and with the event. -/
theorem invocations_cases (lawful : t.Lawful)
    (reached : t.bridge s = (new backend strict).run moves) (env : σ → Conditions) (e : Event) :
    t.invocations env e s = [] ∨ ∃ handler ending, (t.bridge s).isRegistered e.id = true ∧
      lastBound ((new backend strict).log moves) e.id = some handler ∧
      t.invocations env e s = [⟨handler, e, ending⟩] := by
  rw [invocations_eq_called reached]
  obtain none_called | ⟨c, ending, registered, slot, called⟩ := lawful.called_eq (e := e) (s := s)
  · exact .inl none_called
  · refine .inr ⟨c.handler, ending, registered, ?_, called⟩
    rw [← slot_eq_lastBound reached registered, slot]
    rfl

/-- Among quiet listeners, a dispatch to a bound identifier does call its handler. -/
theorem exists_invocation (lawful : t.Lawful)
    (reached : t.bridge s = (new backend strict).run moves) (quiet : t.Quiet)
    (env : σ → Conditions) {handler : H} (registered : (t.bridge s).isRegistered e.id = true)
    (given : lastBound ((new backend strict).log moves) e.id = some handler) :
    ∃ ending, t.invocations env e s = [⟨handler, e, ending⟩] := by
  rw [← slot_eq_lastBound reached registered] at given
  obtain ⟨c, slot, rfl⟩ := Option.map_eq_some_iff.mp given
  have filed : c.id = e.id := by
    rw [reached] at slot
    exact (new_tidy_run backend strict moves).filed slot
  rw [invocations_eq_called reached]
  exact lawful.called_of_quiet quiet registered slot filed

end Reached

end Lawful

/-- What an event calls, in words of the log of the bridge. It calls one handler at most, with that
very event, and the handler is the one that the log gives to the identifier, which has to be
registered. Where the log gives one, it is called unless a listener changes the slots when it notices
the event. The event is consumed exactly if the call succeeds. -/
structure Invokes (t : Stage σ H) (log : List (Move H × Outcome Answer)) (e : Event) (s : σ)
    (calls : List (Invocation H)) (consumed : Bool) : Prop where
  once : calls.length ≤ 1
  latest : ∀ i ∈ calls, i.event = e ∧ (t.bridge s).isRegistered e.id = true ∧
    lastBound log e.id = some i.handler
  called : ∀ handler, (t.bridge s).isRegistered e.id = true → lastBound log e.id = some handler →
    t.Quiet → ∃ ending, calls = [⟨handler, e, ending⟩]
  silent : (t.bridge s).isRegistered e.id = false ∨ lastBound log e.id = none →
    calls = [] ∧ consumed = false
  consumed_iff : consumed = true ↔ ∃ i ∈ calls, i.ending = .returned true

namespace Lawful

variable {t : Stage σ H} {e : Event} {s : σ} {backend : Backend} {strict : Bool}
  {moves : List (Move H)}

theorem invokes (lawful : t.Lawful) (reached : t.bridge s = (new backend strict).run moves)
    (env : σ → Conditions) (e : Event) :
    t.Invokes ((new backend strict).log moves) e s (t.invocations env e s)
      (decide ((t.answer env e s).1 = .returned true)) := by
  have given_called : ∀ handler, (t.bridge s).isRegistered e.id = true →
      lastBound ((new backend strict).log moves) e.id = some handler → t.Quiet →
      ∃ ending, t.invocations env e s = [⟨handler, e, ending⟩] :=
    fun _ registered given quiet => lawful.exists_invocation reached quiet env registered given
  rw [t.answer_ending env e s]
  obtain none_called | ⟨handler, ending, registered, given, called⟩ :=
    lawful.invocations_cases reached env e
  · rw [none_called] at given_called ⊢
    exact ⟨by simp, by simp, given_called, by simp, by simp⟩
  · rw [called] at given_called ⊢
    refine ⟨by simp, ?_, given_called, ?_, ?_⟩
    · intro i member
      cases List.mem_singleton.mp member
      exact ⟨rfl, registered, given⟩
    · rintro (free | unbound)
      · exact absurd (registered.symm.trans free) (by simp)
      · exact absurd (given.symm.trans unbound) (by simp)
    · rw [decide_eq_true_iff]
      simp

/-- A router that has the callback of a bridge at the end of a run, and an event that comes to it.
The calls that are made on the way are those that the log tells, the latest handler once and nothing
else, and the router answers as the call ends. What the callback has done is kept. -/
theorem router_invocations {κ : Type} (lawful : t.Lawful) (env : σ → Conditions)
    {call : κ → Event → σ → Ending Bool × σ} {r : Router κ} {callback : κ}
    (installed : r.callback = some callback) (ours : call callback = t.answer env)
    (reached : t.bridge s = (new backend strict).run moves) (e : Event) :
    let routed := t.routed env r e s
    r.dispatch call e s = (routed.1, routed.2.1) ∧ routed.2.1 = (t.answer env e s).2 ∧
      t.Invokes ((new backend strict).log moves) e s routed.2.2 (r.dispatch call e s).1 := by
  intro routed
  have routed_eq : routed = _ := t.routed_eq env e s installed ours
  have left : (r.dispatch call e s).2 = (t.answer env e s).2 := by
    rw [Router.dispatch_state installed, ours]
  have consumed : (r.dispatch call e s).1 = decide ((t.answer env e s).1 = .returned true) := by
    rw [Bool.eq_iff_iff, decide_eq_true_iff, ← ours]
    exact Router.dispatch_eq_true_iff installed e s
  rw [routed_eq, consumed]
  exact ⟨Prod.ext consumed left, rfl, lawful.invokes reached env e⟩

end Lawful

/-- A handler that sends an event to itself and then unbinds itself is called once by the router. -/
theorem echo_invocations :
    let t : Stage (Bridge Unit) Unit := alone (act (echo 7) 2)
    let env : Bridge Unit → Conditions := fun _ => {}
    let call : Unit → Event → Bridge Unit → Ending Bool × Bridge Unit := fun _ => t.answer env
    let moves : List (Move Unit) := [.registerAndBind {} none 7 { key := 65 } ()]
    let b := (new (.simulated {}) true).run moves
    let e : Event := ⟨7, true⟩
    (∃ ending, (t.routed env (Router.install {} ()) e b).2.2 = [⟨(), e, ending⟩]) ∧
      (Router.dispatch (Router.install {} ()) call e b).1 = true ∧
      (Router.dispatch (Router.install {} ()) call e b).2.isBound 7 = false := by
  intro t env call moves b e
  obtain ⟨-, -, invokes⟩ := (act_lawful (echo 7) 2).router_invocations env
    (rfl : (Router.install {} ()).callback = some ()) (rfl : call () = t.answer env)
    (rfl : t.bridge b = (new (.simulated {}) true).run moves) e
  exact ⟨invokes.called () rfl rfl fun _ _ => rfl, rfl, by decide +kernel⟩

end Stage

end Hotkeys
