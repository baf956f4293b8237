import Hotkeys.Session.World

/-!
# Taking the steps of a session

Handlers, callbacks and armed steps take steps of their own in the middle of a step. How they do so
is a parameter `nested` of everything but `run`, which ties the knot for a given depth of nesting.
-/

namespace Hotkeys.Session

/-- How steps are taken inside a step. -/
abbrev Nested := List Step → World → List Report × World

/-- The combination that keys stand for, given as a text or as a code with a mask. -/
def Keys.chord : Keys → Except Failure Chord
  | text s => (Chord.parse s).mapError .error
  | code key bits =>
    match ModifierSet.ofBits? bits with
    | some modifiers => .ok { key, modifiers }
    | none => .error .unknownBits

/-- What a callback that follows a rule answers to an event. -/
def Rule.answer (rule : Rule) (e : Event) : Ending Bool :=
  match rule with
  | always b => .returned b
  | down => .returned e.down
  | odd => .returned (e.id % 2 == 1)
  | panic => .panicked "callback panicked"

/-- The reply to an outcome. -/
def Reply.ofOutcome {α : Type} (f : α → Reply) : Outcome α → Reply
  | .done a => f a
  | .failed e => .failed (.error e)
  | .aborted e => .failed (.panicked (Outcome.abortText e))

/-- A value as a host sees it. Tables inside tables are shown to a given depth. -/
def Shown.ofValue (i : Script.Interpreter Callee) :
    Nat → Script.Value (Script.Callable Callee) → Shown
  | _, .nil => .nil
  | _, .boolean b => .boolean b
  | _, .integer n => .integer n
  | _, .number x => .number x
  | _, .string s => .text s
  | depth + 1, .table n => .list ((i.fields n).items.map (Shown.ofValue i depth))
  | _, .hotkey n =>
    match i.runtime.object? n with
    | some o => .hotkey o.id o.chord.text
    | none => .foreign
  | _, _ => .foreign

namespace World

/-- How deeply tables inside tables are shown. -/
def shownDepth : Nat := 16

def shown (w : World) (v : Script.Value (Script.Callable Callee)) : Shown :=
  .ofValue w.interpreter shownDepth v

/-- Notes what scripts have told the host. -/
def takeNotes (w : World) : World :=
  let notes := w.interpreter.notes
  notes.foldl (fun w n => w.log (.note n.label (w.shown n.value)))
    { w with interpreter := { w.interpreter with notes := [] } }

/-- Calls a handler of the host: it takes its steps, notes the call, and then panics, fails or
succeeds. -/
def callHost (nested : Nested) (h : Callee) (e : Event) (w : World) : Ending Bool × World :=
  let earlier := w.countOf h.name
  let w := w.count h.name
  let (reports, w) : Option (List Report) × World :=
    if h.steps.isEmpty || h.limit ≤ earlier then (none, w)
    else
      let (reports, w) := nested h.steps w
      (some reports, w)
  let w := w.log (.handler h.name e.down reports)
  match h.panic with
  | some text => (.panicked text, w)
  | none => (.returned (h.failure.isNone || !w.fallible), w)

/-- Calls a handler of the host or of a script. -/
def callHandler (nested : Nested) (f : Script.Callable Callee) (e : Event) (w : World) :
    Ending Bool × World :=
  match f with
  | .host h => w.callHost nested h e
  | f =>
    let (succeeded, interpreter) := w.interpreter.invoke w.env f [.boolean e.down]
    (.returned succeeded, { w with interpreter }.takeNotes)

/-- Takes the steps that are armed on a listener, once. -/
def runHook (nested : Nested) (i : Nat) (w : World) : World :=
  match w.armed.get? i with
  | none => w
  | some steps =>
    let (reports, w) := nested steps (w.disarm i)
    w.log (.hook reports)

/-- The world as a bridge with foreign code: listeners and handlers take steps of their own. -/
def stage (nested : Nested) : Stage World (Script.Callable Callee) where
  bridge := bridge
  update := updateBridge
  notice := runHook nested
  call := callHandler nested

/-- Dispatches an event past the router. -/
def dispatch (nested : Nested) (e : Event) (w : World) : Ending Bool × World :=
  (stage nested).dispatchHeld env e w

/-- Calls the callback that is installed in the router. -/
def callCallback (nested : Nested) (c : Callback) (e : Event) (w : World) : Ending Bool × World :=
  match c with
  | .bridge => (stage nested).answer env e w
  | .recorder name rule => (rule.answer e, w.log (.callback name e))

/-- Sends an event on its way through the router. -/
def send (nested : Nested) (e : Event) (w : World) : Bool × World :=
  w.router.dispatch (callCallback nested) e w

/-- The system sends an event if it has a registration for the identifier. -/
def fire (nested : Nested) (e : Event) (w : World) : Bool × World :=
  w.backend.fire (send nested) e w

/-- Fires a number of events, down and up in turn; the result is how many were consumed. -/
def fireTimes (nested : Nested) (id : HotkeyId) : Nat → Bool → World → Nat × World
  | 0, _, w => (0, w)
  | n + 1, down, w =>
    let (consumed, w) := w.fire nested ⟨id, down⟩
    let (k, w) := w.fireTimes nested id n (!down)
    (k + consumed.toNat, w)

/-- Takes a step that belongs to the host or its system. -/
def takeHost (nested : Nested) (a : HostStep) (w : World) : Reply × World :=
  match a with
  | .fire e =>
    let (consumed, w) := w.fire nested e
    (.flag consumed, w)
  | .press id =>
    let (down, w) := w.fire nested ⟨id, true⟩
    let (up, w) := w.fire nested ⟨id, false⟩
    (.flags down up, w)
  | .inFlight e =>
    let (consumed, w) := w.send nested e
    (.flag consumed, w)
  | .fireTimes id n =>
    let (k, w) := w.fireTimes nested id n true
    (.number k, w)
  | .liveCount => (.maybeNumber w.backend.liveCount?, w)
  | .osBound keys =>
    match keys.chord with
    | .error f => (.failed f, w)
    | .ok chord => (.flag (w.backend.isBound chord), w)
  | .backendName => (.text w.backend.name, w)
  | .fault registration release =>
    (.done, { w with env := { w.env with
      registrationFault := registration
      releaseFault := release } })
  | .setCallback name rule => (.done, { w with router := w.router.install (.recorder name rule) })
  | .clearCallback => (.done, { w with router := w.router.clear })
  | .hasCallback => (.flag w.router.hasCallback, w)

/-- Goes on with a combination if the step gives one. -/
def withChord (w : World) (keys : Keys) (next : Chord → Reply × World) : Reply × World :=
  match keys.chord with
  | .error f => (.failed f, w)
  | .ok chord => next chord

/-- Drops the bridge; it lives on as long as a dispatch is under way. -/
def dropBridge (nested : Nested) (w : World) : World :=
  let w := w.updateBridge fun b => { b with held := false }
  (stage nested).settle w.env w

/-- Why the store refuses a handler, if it can. -/
def refusal (w : World) (h : Callee) : Option String := if w.fallible then h.refusal else none

/-- Steps that go to the bridge that the host holds. -/
def takeHeld (nested : Nested) (a : BridgeStep Step) (w : World) : Reply × World :=
  let unit (r : Outcome Unit × Bridge (Script.Callable Callee)) : Reply × World :=
    (.ofOutcome (fun _ => .done) r.1, w.setBridge r.2)
  let handle (name : Option String) (r : Outcome Handle × Bridge (Script.Callable Callee)) :
      Reply × World :=
    match r.1 with
    | .done h => (.number h.id.toNat, (w.setBridge r.2).keep name h)
    | o => (.ofOutcome (fun _ => .done) o, w.setBridge r.2)
  match a with
  | .register id keys name =>
    w.withChord keys fun chord => handle name (w.bridge.register w.env id chord)
  | .registerAndBind id keys h name =>
    w.withChord keys fun chord =>
      handle name (w.bridge.registerAndBind w.env (w.refusal h) id chord (.host h))
  | .bind id h => unit (w.bridge.bind (w.refusal h) id (.host h))
  | .unbind id => unit (w.bridge.unbind id)
  | .unregister id => unit (w.bridge.unregister w.env id)
  | .unregisterHandle name =>
    match w.kept.get? name with
    | none => (.failed .noHandle, w)
    | some h => unit (w.bridge.unregisterHandle w.env h)
  | .dispatch e =>
    match w.dispatch nested e with
    | (.returned consumed, w) => (.flag consumed, w)
    | (.panicked text, w) => (.failed (.panicked text), w)
  | .phase id => (.ofOutcome (fun p => .text p.name) (w.bridge.phase id), w)
  | .info id =>
    (.info (w.bridge.isBound id) ((w.bridge.handle? id).map (·.id)) (w.bridge.chord? id)
      (w.bridge.isRegistered id), w)
  | .handle id name =>
    match w.bridge.handle? id with
    | some h => (.maybeNumber (some h.id.toNat), w.keep name h)
    | none => (.maybeNumber none, w)
  | .same x y =>
    match w.kept.get? x, w.kept.get? y with
    | some h, some k => (.flag (h == k), w)
    | _, _ => (.failed .noHandle, w)
  | .nextFree base => (.maybeNumber ((w.bridge.nextFree base).map (·.toNat)), w)
  | .slots => (.number w.bridge.liveSlots, w)
  | .strict => (.flag w.bridge.strict, w)
  | .names => (.names w.backend.name w.router.hasCallback, w)
  | .subscribe =>
    let (i, listeners) := w.bridge.listeners.subscribe
    (.number i, w.updateBridge fun b => { b with listeners })
  | .cleanup =>
    (.done, w.updateBridge fun b => { b with listeners := b.listeners.cleanup })
  | .install => (.done, { w with router := w.router.install .bridge })
  | .shutdown =>
    let (n, b) := w.bridge.shutdown w.env
    (.number n, w.setBridge b)
  | .drop => (.done, w.dropBridge nested)
  | _ => (.failed .noBridge, w)

/-- Goes on with a listener that is still there. -/
def withListener (w : World) (i : Nat) (next : Listeners → Reply × World) : Reply × World :=
  if w.bridge.listeners.isOpen i then next w.bridge.listeners else (.failed .noListener, w)

/-- Takes a step that belongs to the bridge. -/
def takeBridge (nested : Nested) (a : BridgeStep Step) (w : World) : Reply × World :=
  match a with
  | .unsubscribe i =>
    (.flag (w.bridge.listeners.isOpen i),
      (w.updateBridge fun b => { b with listeners := b.listeners.close i }).disarm i)
  | .drain i =>
    w.withListener i fun listeners =>
      let (events, drained) := listeners.drain i
      (.drained (!listeners.senders.contains i) events,
        w.updateBridge fun b => { b with listeners := drained })
  | .arm i steps =>
    w.withListener i fun listeners =>
      match listeners.take? i with
      | some (e, rest) => (.event e, w.updateBridge fun b => { b with listeners := rest })
      | none => if listeners.senders.contains i then (.armed, w.arm i steps) else (.closed, w)
  | a => if w.bridge.held then w.takeHeld nested a else (.failed .noBridge, w)

/-- Runs a script and notes what it tells. -/
def runScript (w : World) (origin : Script.Origin) (text : String) : Reply × World :=
  let (result, interpreter) := w.interpreter.run w.env origin text
  (match result with
    | .ok () => .done
    | .error p => .failed (.script p), { w with interpreter }.takeNotes)

/-- Runs a script file. -/
def loadScript (w : World) (path : String) (file : Option Files.Content) : Reply × World :=
  let unreadable (fault : Files.Fault) : Reply × World :=
    (.failed (.script (.unreadable path fault)), w)
  match file with
  | some (.text s) => w.runScript (.file path) s
  | some (.binary _) => unreadable .notText
  | none => unreadable .notFound

/-- Steps that need the script runtime that the host holds. -/
def takeRuntime (nested : Nested) (a : ScriptStep Step) (w : World) : Reply × World :=
  match a with
  | .shutdown =>
    let (n, r) := w.runtime.shutdown w.env
    (.number n, w.updateRuntime fun _ => r)
  | .dropRuntime =>
    let (_, r) := w.runtime.shutdown w.env
    (.done, (w.updateRuntime fun _ => r).dropBridge nested)
  | .register id keys => w.takeHeld nested (.register id keys none)
  | .unregister id => w.takeHeld nested (.unregister id)
  | .unbind id => w.takeHeld nested (.unbind id)
  | .phase id => w.takeHeld nested (.phase id)
  | .key id => (.maybeText ((w.bridge.chord? id).map (·.text)), w)
  | .run name text => w.runScript (.chunk name) text
  | .load path file => w.loadScript path file
  | _ => (.failed .noRuntime, w)

/-- Takes a step that belongs to the scripts. -/
def takeScript (nested : Nested) (a : ScriptStep Step) (w : World) : Reply × World :=
  match a with
  | .call f args name =>
    let (args, interpreter) := w.interpreter.evaluateAll args
    match interpreter.callFunction w.env f args with
    | (.error e, interpreter) => (.failed (.exception e), { w with interpreter })
    | (.ok v, interpreter) =>
      let interpreter := name.elim interpreter fun name => interpreter.setGlobal name v
      let w := { w with interpreter }
      (.value (w.shown v), w)
  | .method name m =>
    match w.interpreter.callMethod w.env (w.interpreter.global name) m with
    | (.error e, interpreter) => (.failed (.exception e), { w with interpreter })
    | (.ok vs, interpreter) =>
      let w := { w with interpreter }
      (.values (vs.map w.shown), w)
  | .equal a b =>
    let (a, interpreter) := w.interpreter.evaluate a
    let (b, interpreter) := interpreter.evaluate b
    (.flag (interpreter.equal Script.Value.nextNumber a b), { w with interpreter })
  | .text name => (.text (w.interpreter.textOf (w.interpreter.global name)), w)
  | .forget name => (.done, { w with interpreter := w.interpreter.setGlobal name .nil })
  | .copy name source =>
    let v := w.interpreter.global source
    (.done, { w with interpreter := w.interpreter.setGlobal name v })
  | .collect => (.done, { w with interpreter := w.interpreter.collect w.env })
  | a => if w.bridge.held then w.takeRuntime nested a else (.failed .noRuntime, w)

/-- Takes a step of any of the three kinds. -/
def takeAction (nested : Nested) (a : Action Step) (w : World) : Reply × World :=
  match a with
  | .host a => w.takeHost nested a
  | .bridge a => w.takeBridge nested a
  | .script a => w.takeScript nested a

/-- Takes one step, on a thread of its own if it says so. -/
def take (nested : Nested) (s : Step) (w : World) : Report × World :=
  match s with
  | .step offThread a =>
    let outer := w.calls
    let owner := w.env.onOwnerThread
    let env := { w.env with onOwnerThread := owner && !offThread }
    let (reply, w) := takeAction nested a { w with calls := [], env }
    (.report reply w.calls,
      { w with calls := outer, env := { w.env with onOwnerThread := owner } })

/-- Takes steps one after the other. -/
def takeAll (nested : Nested) : List Step → World → List Report × World
  | [], w => ([], w)
  | s :: rest, w =>
    let (report, w) := w.take nested s
    let (reports, w) := takeAll nested rest w
    (report :: reports, w)

/-- Takes steps, and the steps of handlers inside them to the given depth. -/
def run : Nat → Nested
  | 0, _, w => ([], w)
  | depth + 1, steps, w => takeAll (run depth) steps w

end World

end Hotkeys.Session
