import Hotkeys.Proofs.Bridge.Consistency

/-!
# Operations on a single identifier

An operation that is about one identifier makes at most one change to a bridge, and this change is
about the same identifier. `Effect` lists all that can come of it.
-/

namespace Hotkeys.Bridge

variable {H : Type} {b : Bridge H}

/-- What can be done to a single identifier. -/
inductive Operation (H : Type)
  | register (env : Conditions) (id : HotkeyId) (chord : Chord)
  | bind (refusal : Option String) (id : HotkeyId) (handler : H)
  | unbind (id : HotkeyId)
  | unregister (env : Conditions) (id : HotkeyId)
  | unregisterHandle (env : Conditions) (h : Handle)

namespace Operation

def move : Operation H → Move H
  | register env id chord => .register env id chord
  | bind refusal id handler => .bind refusal id handler
  | unbind id => .unbind id
  | unregister env id => .unregister env id
  | unregisterHandle env h => .unregisterHandle env h

def id : Operation H → HotkeyId
  | register _ id _ | bind _ id _ | unbind id | unregister _ id => id
  | unregisterHandle _ h => h.id

/-- The phase that the operation leads to where it succeeds. -/
def target : Operation H → Phase
  | register .. | unbind _ => .registered
  | bind .. => .bound
  | unregister .. | unregisterHandle .. => .unregistered

end Operation

def perform (b : Bridge H) (op : Operation H) : Outcome Answer × Bridge H := b.take op.move

/-- What an operation can come to, and what it can make of a bridge. -/
inductive Effect (b : Bridge H) (op : Operation H) : Outcome Answer × Bridge H → Prop
  | rejected {o : Outcome Answer} (cause : ∀ e, o.error? = some e → e.isUnregistration = false) :
    Effect b op (o, b)
  /-- The handler had been stored when the operation was rejected. -/
  | discarded {e : Error} {handler : H} (cause : e.isUnregistration = false) :
    Effect b op (.failed e, b.discard op.id handler)
  | enrolled {chord : Chord} {os : OsHandle} {backend : Backend} :
    Effect b op (.done (.handle ⟨op.id, b.handles.nextSerial⟩), b.enroll op.id chord os backend)
  | filled {handler : H} : Effect b op (.done .unit, b.fill op.id handler)
  | cleared : Effect b op (.done .unit, b.clearSlot op.id)
  | withdrawn {backend : Backend} : Effect b op (.done .unit, b.withdraw op.id backend)
  /-- The system does not release the combination, which is given up all the same. -/
  | refused {env : Conditions} {holding : Holding} {e : Error}
      (releases : op.target = .unregistered)
      (entry : b.handles.live.get? op.id = some holding)
      (answer : b.backend.release env op.id holding.os = .error e) :
    Effect b op (.failed e, b.withdraw op.id b.backend)

namespace Effect

variable {op : Operation H}

theorem failed {e : Error} (cause : e.isUnregistration = false) : Effect b op (.failed e, b) := by
  refine .rejected ?_
  rintro _ ⟨⟩
  exact cause

theorem reported (id : HotkeyId) (f : Unit → Answer) :
    Effect b op ((b.report (.doubleRelease id) : Outcome Unit).map f, b) := by
  refine .rejected ?_
  intro e failed
  unfold report at failed
  split at failed <;> cases failed <;> rfl

end Effect

/-- Every operation of a paired bridge has one of the effects. -/
theorem Paired.effect (paired : b.Paired) (op : Operation H) : Effect b op (b.perform op) := by
  cases op with
  | register env id chord =>
    simp only [perform, Operation.move, Bridge.take, answer, paired.register_eq]
    split
    · exact .failed rfl
    · split
      · rename_i refused
        obtain ⟨_, _, rfl⟩ | ⟨_, rfl⟩ := Backend.error_of_register refused <;> exact .failed rfl
      · exact .enrolled
  | bind refusal id handler =>
    simp only [perform, Operation.move, Bridge.take, answer, paired.bind_eq]
    split
    · exact .failed rfl
    · split
      · exact .discarded rfl
      · split
        · exact .filled
        · exact .discarded rfl
  | unbind id =>
    simp only [perform, Operation.move, Bridge.take, answer, paired.unbind_eq]
    split
    · exact .cleared
    · split
      · exact .reported id _
      · exact .failed rfl
  | unregister env id =>
    simp only [perform, Operation.move, Bridge.take, answer, paired.unregister_eq]
    split
    · exact .failed rfl
    · split
      · exact .withdrawn
      · exact .refused rfl ‹_› ‹_›
  | unregisterHandle env h =>
    simp only [perform, Operation.move, Bridge.take, answer, paired.unregisterHandle_eq]
    split
    · exact .reported h.id _
    · split
      · split
        · exact .withdrawn
        · exact .refused rfl ‹_› ‹_›
      · exact .reported h.id _

end Hotkeys.Bridge
