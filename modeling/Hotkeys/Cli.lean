import Hotkeys.Log.Filter
import Hotkeys.Report
import Hotkeys.Script.Chunk

/-!
# The command line

The program loads a configuration, registers its hotkeys, runs a script and waits. Everything but
the waiting is a function of the arguments and the files: `start` goes as far as the waiting, and
`Waiting.stop` ends the program.
-/

namespace Hotkeys.Cli

/-- The options of the command line. -/
structure Options where
  config : Option String := none
  script : Option String := none
  simulate : Bool := false
  deriving DecidableEq, Repr

/-- What the program says when it is asked for help. -/
def usage : String := "Usage: hotbind [--config PATH] [--script PATH] [--simulate]"

/-- What the arguments ask for. -/
inductive Request
  | run (o : Options)
  | help
  | refused (reason : String)
  deriving DecidableEq, Repr

/-- Reads the arguments from left to right; the last of two options of one kind counts. -/
def Request.read (o : Options) : List String → Request
  | [] => .run o
  | "--config" :: rest =>
    match rest with
    | path :: rest => read { o with config := some path } rest
    | [] => .refused "--config requires a path"
  | "--script" :: rest =>
    match rest with
    | path :: rest => read { o with script := some path } rest
    | [] => .refused "--script requires a path"
  | "--simulate" :: rest => read { o with simulate := true } rest
  | other :: _ =>
    if other == "-h" || other == "--help" then .help
    else .refused s!"unknown argument '{other}'\n{usage}"

/-- What the program leaves behind. -/
structure Output where
  exit : Nat
  log : List Log.Line := []
  errors : String := ""
  text : String := ""
  deriving DecidableEq, Repr

/-- What scripts work on. The program has no functions of its own for them. -/
abbrev Interpreter := Script.Interpreter Empty

/-- The script runtime of the program, whose handlers come from scripts alone. -/
abbrev Runtime := Script.Runtime (Script.Callable Empty)

/-- The files that the program finds. -/
abbrev FileTree := Files.Tree Files.Content

/-- The folder where the user's configurations are. -/
def configHome? (xdg home : Option String) : Option Files.Path :=
  match xdg.filter (fun s => "/".isPrefixOf s), home with
  | some xdg, _ => some (Files.Path.ofText xdg)
  | none, some home => some ((Files.Path.ofText home).child ".config")
  | none, none => none

/-- The configuration that the options ask for, from the given path or else from the folder of the
user, with the backend replaced if the options want a simulated one. -/
def loadConfig (files : FileTree) (configHome : Option Files.Path) (o : Options) :
    Except Config.Problem Config := do
  let path ← match o.config, configHome with
    | some path, _ => .ok (Files.Path.ofText path)
    | none, some home => .ok (Config.defaultPath home)
    | none, none => .error (.path "no config directory for this platform")
  let c ← Config.load files path
  let c := if o.simulate then { c with backend := .simulated } else c
  return o.script.elim c fun path => { c with script := { c.script with path := some path } }

/-- The errors that have led to a failure, outermost first. -/
def causes : Failure → List String
  | .hotkey e => [e.message]
  | .config p => p.message :: match p with
    | .io fault => [fault.message]
    | .json q => [q.message]
    | _ => []
  | .script p => p.message :: match p with
    | .exception e traced => [e.text traced]
    | .unreadable _ fault => [fault.message]
    | .hotkey e => [e.message]
    | .idsExhausted _ => []
  | .state b => [b.message]
  | .internal _ => []

/-- Puts something in front of the first line of a text and something else in front of the others.
-/
def indented (first others text : String) : String :=
  first ++ ("\n" ++ others).intercalate (text.splitOn "\n")

/-- Blanks that line up what is listed. -/
def spaces (n : Nat) : String := String.ofList (List.replicate n ' ')

/-- The causes as a list; one cause alone has no number. -/
def listCauses (cs : List String) : String :=
  match cs with
  | [] => ""
  | [c] => "\n\nCaused by:\n" ++ indented (spaces 4) (spaces 4) c
  | cs => "\n\nCaused by:" ++ String.join (cs.mapIdx fun i c =>
    "\n" ++ indented (spaces (5 - (toString i).length) ++ s!"{i}: ") (spaces 7) c)

/-- What is written when the program ends with an error. -/
def errorText (message : String) (cs : List String) : String :=
  s!"Error: {message}{listCauses cs}\n"

/-- The output of a program that has failed after writing a log. -/
def failed (log : List Log.Line) (f : Failure) (text : String := "") : Output where
  exit := 1
  log := log
  text := text
  errors := s!"hotbind: {f.report.text}\n" ++ errorText f.message (causes f)

/-- The line of the log that reports why the program has failed. -/
def failureLine (f : Failure) : Log.Line :=
  let r := f.report
  { level := .error
    message := "hotbind failed"
    values := [("code", r.code.title), ("detail", Log.optional r.detail),
      ("recoverable", toString r.recoverable)] }

/-- Registers the configured hotkeys one after the other and tells about each. -/
def registerAll (r : Runtime) :
    List Binding → Runtime × List Log.Line
  | [] => (r, [])
  | b :: rest =>
    let (outcome, bridge) := r.bridge.register {} b.id b.chord
    let line : Log.Line :=
      match outcome with
      | .done _ =>
        { level := .info
          message := "Config hotkey registered"
          values := [("id", toString b.id), ("hotkey", b.displayName)] }
      | .failed e | .aborted e =>
        let f := Failure.hotkey e
        { level := .warn
          message := "Failed to register config hotkey"
          values := [("id", toString b.id), ("error", f.message),
            ("hint", Log.optional f.hint?)] }
    let (r, lines) := registerAll { r with bridge } rest
    (r, line :: lines)

/-- Reads a script file. -/
def readScript (files : FileTree) (path : String) : Except Script.Problem String := do
  match ← (files.read (Files.Path.ofText path)).mapError (.unreadable path) with
  | .text s => return s
  | .binary _ => throw (.unreadable path .notText)

/-- Runs a script file. -/
def loadScript (files : FileTree) (r : Runtime) (path : String) :
    Except Script.Problem Unit × Interpreter :=
  let i : Interpreter := .new r
  match readScript files path with
  | .error p => (.error p, i)
  | .ok s => i.run {} (.file path) s

/-- The program while it waits to be interrupted. -/
structure Waiting where
  runtime : Runtime
  log : List Log.Line
  filter : Log.Filter
  /-- What has been printed. -/
  text : String := ""

/-- What comes of the start: the program has ended, or it waits for events. -/
inductive Started
  | ended (o : Output)
  | waiting (w : Waiting)

/-- What the log keeps of some lines. -/
def kept (f : Log.Filter) (lines : List Log.Line) : List Log.Line :=
  lines.filter f.allows

/-- Runs the program with a configuration as far as the waiting. -/
def startWith (files : FileTree) (c : Config) : Started :=
  let filter := Log.Filter.ofText c.logging.filter
  let greeting : Log.Line :=
    { level := .info
      message := "Starting hotbind"
      values := [("backend", c.backend.title), ("strict", toString c.strict),
        ("bindings", toString c.hotkeys.list.length)] }
  match c.backend.check with
  | .error e =>
    let f := Failure.hotkey e
    .ended (failed (kept filter [greeting, failureLine f]) f)
  | .ok kind =>
    let r : Runtime :=
      { bridge := { backend := .ofKind kind, strict := c.strict }, idBase := c.script.idBase }
    let (r, lines) := registerAll r c.hotkeys.list
    let lines := greeting :: lines
    match c.script.path with
    | none => .waiting { runtime := r, log := lines, filter }
    | some path =>
      let (result, i) := loadScript files r path
      let text := String.join (i.printed.map (· ++ "\n"))
      match result with
      | .error p =>
        let f := Failure.script p
        .ended (failed (kept filter (lines ++ [failureLine f])) f text)
      | .ok () =>
        let loaded : Log.Line :=
          { level := .info
            target := "hotbind_lib::script"
            message := "Script loaded"
            values := [("path", path), ("hotkeys", toString i.runtime.bridge.size)] }
        .waiting { runtime := i.runtime, log := lines ++ [loaded], filter, text }

/-- The program up to the point where it waits for events. Every step that fails ends it with a
report. -/
def start (files : FileTree) (configHome : Option Files.Path) (args : List String) : Started :=
  match Request.read {} args with
  | .help => .ended { exit := 0, text := usage ++ "\n" }
  | .refused reason => .ended { exit := 1, errors := errorText reason [] }
  | .run o =>
    match loadConfig files configHome o with
    | .error p => .ended (failed [] (.config p))
    | .ok c => startWith files c

/-- Ends the program after it has been interrupted. -/
def Waiting.stop (w : Waiting) : Output :=
  let (released, _) := w.runtime.shutdown {}
  let farewell : Log.Line :=
    { level := .info, message := "hotbind stopped", values := [("released", toString released)] }
  { exit := 0, log := kept w.filter (w.log ++ [farewell]), text := w.text }

end Hotkeys.Cli
